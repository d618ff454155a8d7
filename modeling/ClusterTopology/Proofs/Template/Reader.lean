import Mathlib.Data.List.Basic
import ClusterTopology.Template.Record

/-!
Reading a template back from its members.

A template is written as JSON member by member. Every reader of a value is exact: it accepts
what is written for a value, gives that value, and accepts nothing else (`Record.Exact`). The
law is lifted through lists and through members that may be missing, and so the members of a
kind are read as a template exactly when they are what is written for it
(`container_eq_ok_iff` and its like for the other kinds).
-/

namespace ClusterTopology

/-! ### Templates as JSON -/

namespace Json

def ofText (text : String) : Json := .string text

def ofTexts (texts : List String) : Json := .array (texts.map ofText)

def ofNumber (number : Number) : Json := .number number

def ofNumbers (numbers : List Number) : Json := .array (numbers.map ofNumber)

def ofCount (count : UInt32) : Json := .number (.integer count.toNat)

end Json

def Resource.numbers (resource : Resource) : List Number :=
  [resource.limit, resource.used, resource.request]

def Throughput.numbers (throughput : Throughput) : List Number :=
  [throughput.limit, throughput.used]

/-- The members that a template has besides its kind and its key. -/
def Template.attributes : Template → Json.Members
  | .container template =>
    [("cpu", .ofNumbers template.cpu.numbers), ("mem", .ofNumbers template.mem.numbers),
      ("qps", .ofNumbers template.qps.numbers)]
  | .pod template => [("containers", .ofTexts template.containers)]
  | .vnode template =>
    [("cpu", .ofNumber template.cpu), ("mem", .ofNumber template.mem),
      ("pods", .ofTexts template.pods)]
  | .node template =>
    [("cpu", .ofNumber template.cpu), ("mem", .ofNumber template.mem),
      ("vnodes", .ofTexts template.vnodes), ("num", .ofCount template.num)]
  | .service template => [("pods", .ofTexts template.pods)]

/-! ### Readers of values -/

namespace Record

variable {α β : Type}

/-- A reader accepts what is written for a value, gives that value, and accepts nothing
else. -/
def Exact (shape : Shape α) (write : α → Json) : Prop :=
  ∀ json value, shape json = .ok value ↔ json = write value

theorem bind_eq_ok_iff {result : Except ShapeFault α} {next : α → Except ShapeFault β}
    {value : β} :
    (result >>= next) = .ok value ↔ ∃ first, result = .ok first ∧ next first = .ok value := by
  cases result with
  | error fault => simp [bind, Except.bind]
  | ok first => simp [bind, Except.bind]

theorem pure_eq_ok_iff {first value : α} :
    (pure first : Except ShapeFault α) = .ok value ↔ first = value :=
  ⟨Except.ok.inj, congrArg _⟩

theorem exact_text : Exact text .ofText := by
  intro json value
  cases json <;> simp [text, Json.ofText]

theorem exact_number : Exact number .ofNumber := by
  intro json value
  cases json <;> simp [number, Json.ofNumber]

/-- A count is what fits 32 bits. -/
theorem exact_count : Exact count .ofCount := by
  intro json value
  unfold count Json.ofCount
  split
  · rename_i integer
    rw [Json.number.injEq, Number.integer.injEq]
    have bound : value.toNat < UInt32.size := value.toNat_lt_size
    split
    · rename_i range
      rw [Except.ok.injEq, ← UInt32.toNat_inj, UInt32.toNat_ofNat_of_lt' (by omega)]
      omega
    · rename_i range
      constructor
      · nofun
      · intro same
        omega
  · rename_i other
    constructor
    · nofun
    · rintro rfl
      exact absurd rfl (other _)

/-- A list is read item by item, and every item counts. -/
theorem each_eq_ok_iff {shape : Shape α} {write : α → Json} (exact : Exact shape write)
    {items : List Json} {values : List α} :
    each shape items = .ok values ↔ items = values.map write := by
  induction items generalizing values with
  | nil =>
      rw [each, Except.ok.injEq]
      cases values <;> simp
  | cons item items ih =>
      simp only [each, bind_eq_ok_iff, pure_eq_ok_iff, exact item, ih]
      constructor
      · rintro ⟨first, rfl, others, rfl, rfl⟩
        rfl
      · intro same
        cases values with
        | nil => cases same
        | cons first others =>
            obtain ⟨rfl, rfl⟩ := List.cons.inj same
            exact ⟨first, rfl, others, rfl, rfl⟩

theorem exact_texts : Exact texts .ofTexts := by
  intro json values
  cases json with
  | array items =>
      rw [texts, each_eq_ok_iff exact_text, Json.ofTexts, Json.array.injEq]
  | null | boolean | number | string | object => simp [texts, Json.ofTexts]

/-- Exactly three numbers are read: no item beyond the third is left unread. -/
theorem exact_resource : Exact resource fun value => .ofNumbers value.numbers := by
  intro json value
  cases json with
  | array items =>
      simp only [resource, bind_eq_ok_iff, each_eq_ok_iff exact_number, Json.ofNumbers,
        Json.array.injEq]
      constructor
      · rintro ⟨numbers, taken, accepted⟩
        split at accepted
        · rename_i limit used request
          split at accepted
          · rename_i three
            obtain rfl := pure_eq_ok_iff.mp accepted
            rwa [List.take_of_length_le (Nat.le_of_eq three)] at taken
          · cases accepted
        · cases accepted
      · rintro rfl
        exact ⟨value.numbers, rfl, rfl⟩
  | null | boolean | number | string | object => simp [resource, Json.ofNumbers]

/-- Exactly two numbers are read: no item beyond the second is left unread. -/
theorem exact_throughput : Exact throughput fun value => .ofNumbers value.numbers := by
  intro json value
  cases json with
  | array items =>
      simp only [throughput, bind_eq_ok_iff, each_eq_ok_iff exact_number, Json.ofNumbers,
        Json.array.injEq]
      constructor
      · rintro ⟨numbers, taken, accepted⟩
        split at accepted
        · rename_i limit used
          split at accepted
          · rename_i two
            obtain rfl := pure_eq_ok_iff.mp accepted
            rwa [List.take_of_length_le (Nat.le_of_eq two)] at taken
          · cases accepted
        · cases accepted
      · rintro rfl
        exact ⟨value.numbers, rfl, rfl⟩
  | null | boolean | number | string | object => simp [throughput, Json.ofNumbers]

/-! ### Members -/

/-- A member that is there is read exactly, and one that is not is none. -/
theorem optional_eq_ok_iff {shape : Shape α} {write : α → Json} (exact : Exact shape write)
    {members : Json.Members} {name : String} {value? : Option α} :
    optional members name shape = .ok value? ↔ members.lookup name = value?.map write := by
  unfold optional
  cases members.lookup name with
  | none => cases value? <;> simp
  | some json =>
      cases value? with
      | none => cases read : shape json <;> simp [Except.map, read]
      | some value =>
          rw [Option.map_some, Option.some.injEq, ← exact]
          cases read : shape json <;> simp [Except.map, read]

theorem required_eq_ok_iff {name : String} {value? : Option α} {value : α} :
    required name value? = .ok value ↔ value? = some value := by
  cases value? <;> simp [required]

section Kinds

variable {members : Json.Members}

theorem container_eq_ok_iff {template : ContainerTemplate} :
    container members = .ok template ↔
      members.lookup "key" = some (.ofText template.key) ∧
        members.lookup "cpu" = some (.ofNumbers template.cpu.numbers) ∧
        members.lookup "mem" = some (.ofNumbers template.mem.numbers) ∧
        members.lookup "qps" = some (.ofNumbers template.qps.numbers) := by
  simp only [container, bind_eq_ok_iff, pure_eq_ok_iff, required_eq_ok_iff,
    optional_eq_ok_iff exact_text, optional_eq_ok_iff exact_resource,
    optional_eq_ok_iff exact_throughput]
  constructor
  · rintro ⟨_, cpu, _, key, _, mem, _, qps, _, rfl, _, rfl, _, rfl, _, rfl, rfl⟩
    exact ⟨key, cpu, mem, qps⟩
  · rintro ⟨key, cpu, mem, qps⟩
    exact ⟨some _, cpu, some _, key, some _, mem, some _, qps, _, rfl, _, rfl, _, rfl, _, rfl,
      rfl⟩

theorem pod_eq_ok_iff {template : PodTemplate} :
    pod members = .ok template ↔
      members.lookup "key" = some (.ofText template.key) ∧
        members.lookup "containers" = some (.ofTexts template.containers) := by
  simp only [pod, bind_eq_ok_iff, pure_eq_ok_iff, required_eq_ok_iff,
    optional_eq_ok_iff exact_text, optional_eq_ok_iff exact_texts]
  constructor
  · rintro ⟨_, containers, _, key, _, rfl, _, rfl, rfl⟩
    exact ⟨key, containers⟩
  · rintro ⟨key, containers⟩
    exact ⟨some _, containers, some _, key, _, rfl, _, rfl, rfl⟩

theorem vnode_eq_ok_iff {template : VNodeTemplate} :
    vnode members = .ok template ↔
      members.lookup "key" = some (.ofText template.key) ∧
        members.lookup "cpu" = some (.ofNumber template.cpu) ∧
        members.lookup "mem" = some (.ofNumber template.mem) ∧
        members.lookup "pods" = some (.ofTexts template.pods) := by
  simp only [vnode, bind_eq_ok_iff, pure_eq_ok_iff, required_eq_ok_iff,
    optional_eq_ok_iff exact_text, optional_eq_ok_iff exact_number,
    optional_eq_ok_iff exact_texts]
  constructor
  · rintro ⟨_, cpu, _, key, _, mem, _, pods, _, rfl, _, rfl, _, rfl, _, rfl, rfl⟩
    exact ⟨key, cpu, mem, pods⟩
  · rintro ⟨key, cpu, mem, pods⟩
    exact ⟨some _, cpu, some _, key, some _, mem, some _, pods, _, rfl, _, rfl, _, rfl, _, rfl,
      rfl⟩

theorem node_eq_ok_iff {template : NodeTemplate} :
    node members = .ok template ↔
      members.lookup "key" = some (.ofText template.key) ∧
        members.lookup "cpu" = some (.ofNumber template.cpu) ∧
        members.lookup "mem" = some (.ofNumber template.mem) ∧
        members.lookup "vnodes" = some (.ofTexts template.vnodes) ∧
        members.lookup "num" = some (.ofCount template.num) := by
  simp only [node, bind_eq_ok_iff, pure_eq_ok_iff, required_eq_ok_iff,
    optional_eq_ok_iff exact_text, optional_eq_ok_iff exact_number,
    optional_eq_ok_iff exact_texts, optional_eq_ok_iff exact_count]
  constructor
  · rintro ⟨_, cpu, _, key, _, mem, _, num, _, vnodes, _, rfl, _, rfl, _, rfl, _, rfl, _, rfl,
      rfl⟩
    exact ⟨key, cpu, mem, vnodes, num⟩
  · rintro ⟨key, cpu, mem, vnodes, num⟩
    exact ⟨some _, cpu, some _, key, some _, mem, some _, num, some _, vnodes, _, rfl, _, rfl, _,
      rfl, _, rfl, _, rfl, rfl⟩

/-- The pods of a service are optional: left out they are none. -/
theorem service_eq_ok_iff {template : ServiceTemplate} :
    service members = .ok template ↔
      members.lookup "key" = some (.ofText template.key) ∧
        (members.lookup "pods" = some (.ofTexts template.pods) ∨
          template.pods = [] ∧ members.lookup "pods" = none) := by
  simp only [service, bind_eq_ok_iff, pure_eq_ok_iff, required_eq_ok_iff,
    optional_eq_ok_iff exact_text, optional_eq_ok_iff exact_texts]
  constructor
  · rintro ⟨_, key, pods?, listed, _, rfl, rfl⟩
    cases pods? with
    | none => exact ⟨key, Or.inr ⟨rfl, listed⟩⟩
    | some pods => exact ⟨key, Or.inl listed⟩
  · obtain ⟨name, pods⟩ := template
    rintro ⟨key, listed | ⟨rfl, absent⟩⟩
    · exact ⟨some _, key, some _, listed, _, rfl, rfl⟩
    · exact ⟨some _, key, none, absent, _, rfl, rfl⟩

end Kinds

theorem map_eq_ok_iff {result : Except ShapeFault α} {change : α → β} {value : β} :
    result.map change = .ok value ↔ ∃ first, result = .ok first ∧ change first = value := by
  cases result <;> simp [Except.map]

end Record

end ClusterTopology
