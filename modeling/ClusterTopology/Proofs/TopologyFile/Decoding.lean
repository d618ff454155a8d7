import ClusterTopology.Proofs.TopologyFile.Lines

/-!
Reading a topology file back.

`Row.decode` cuts the data lines of a text into fields and reads the fields as rows: the
kind, the id, the attributes, the address and the ids of the children, all as text. Two
things could stand in its way. A separator inside an id would cut a field in two, so no
key may hold one (`cutFields_intercalate`); and an empty field at the end could be an id,
but no id is empty (`ofFields?_fields`). `decode_render` says that the rows of a file are
those of the instances, in the order of the layout.
-/

namespace ClusterTopology

/-! ### Cutting at separators -/

/-- The fields between separators, which are found from left to right. -/
def cutFields : List Char → List (List Char)
  | [] => [[]]
  | ',' :: ' ' :: rest => [] :: cutFields rest
  | c :: rest => (cutFields rest).modifyHead (c :: ·)

/-- No separator occurs in the text. -/
def Text.Whole (text : List Char) : Prop := ¬ fieldSeparator.toList <:+: text

namespace Text

variable {c : Char} {text front back : List Char}

theorem Plain.whole (plain : Plain text) : Whole text := by
  intro occurs
  exact plain.notMem (c := ',') (by decide) (occurs.subset (by decide))

theorem Whole.tail (whole : Whole (c :: text)) : Whole text :=
  fun occurs => whole (occurs.trans (List.suffix_cons c text).isInfix)

/-- A separator ends in a blank, so none begins in a text and ends in a plain one. -/
theorem Whole.append (whole : Whole front) (plain : Plain back) : Whole (front ++ back) := by
  rintro ⟨before, after, occurs⟩
  rcases List.append_eq_append_iff.mp occurs with ⟨more, rfl, -⟩ | ⟨more, same, rfl⟩
  · exact whole ⟨before, more, rfl⟩
  · obtain ⟨early, -⟩ := plain_append.mp plain
    rcases List.eq_nil_or_concat more with rfl | ⟨init, last, rfl⟩
    · rw [List.append_nil] at same
      exact whole ⟨before, [], by rw [List.append_nil, same]⟩
    · have split : (before ++ [',']) ++ [' '] = (front ++ init) ++ [last] := by
        simpa [fieldSeparator] using same
      obtain ⟨-, blank⟩ := List.append_inj' split rfl
      obtain rfl := List.singleton_inj.mp blank
      exact early.notMem (c := ' ') (by decide) (by simp)

/-- A character that begins no separator belongs to the first field. -/
theorem Whole.cut_cons (whole : Whole (c :: front)) (back : List Char)
    (apart : back.head? ≠ some ' ') :
    cutFields (c :: (front ++ back)) = (cutFields (front ++ back)).modifyHead (c :: ·) := by
  rw [cutFields]
  intro rest comma blank
  subst comma
  cases front with
  | nil =>
      rw [List.nil_append] at blank
      exact apart (by rw [blank, List.head?_cons])
  | cons d front =>
      obtain ⟨rfl, -⟩ := List.cons_eq_cons.mp blank
      exact whole ⟨[], front, rfl⟩

theorem Whole.cut (whole : Whole text) : cutFields text = [text] := by
  induction text with
  | nil => rfl
  | cons c text ih =>
      have step := whole.cut_cons [] (by simp)
      rwa [List.append_nil, ih whole.tail] at step

theorem Whole.cut_append (whole : Whole front) (rest : List Char) :
    cutFields (front ++ (fieldSeparator.toList ++ rest)) = front :: cutFields rest := by
  induction front with
  | nil => rfl
  | cons c front ih =>
      have step := whole.cut_cons (fieldSeparator.toList ++ rest) (by simp [fieldSeparator])
      rwa [ih whole.tail] at step

end Text

/-- Fields that hold no separator are found again when they have been joined. -/
theorem cutFields_intercalate {texts : List (List Char)} (some : texts ≠ [])
    (whole : ∀ text ∈ texts, Text.Whole text) :
    cutFields (fieldSeparator.toList.intercalate texts) = texts := by
  induction texts with
  | nil => exact absurd rfl some
  | cons text rest ih =>
      obtain ⟨first, later⟩ := List.forall_mem_cons.mp whole
      by_cases last : rest = []
      · subst last
        rw [List.intercalate_singleton]
        exact first.cut
      · rw [List.intercalate_cons_of_ne_nil last, List.append_assoc, first.cut_append,
          ih last later]

example : cutFields "a,,  b".toList = ["a,".toList, " b".toList] := by decide

/-! ### Rows -/

/-- What a record line says, as text. -/
structure Row where
  kind : Kind
  id : String
  attributes : List String
  address? : Option String
  children : List String
  deriving DecidableEq, Repr

/-- What the record line of an instance is to say. -/
def Instance.row (it : Instance) : Row where
  kind := it.kind
  id := it.id
  attributes := it.attributes.map Number.text
  address? := it.address?.map Address.text
  children := it.children

namespace Row

/-- The children that fields stand for. A single empty field stands for none. -/
def childrenOf (fields : List String) : List String := if fields = [""] then [] else fields

/-- Read the fields of a record line. -/
def ofFields? : List String → Option Row
  | name :: id :: rest =>
    match Kind.ofName? name, rest with
    | some .container, attributes =>
      if attributes.length = 8 then some ⟨.container, id, attributes, none, []⟩ else none
    | some .pod, ids => some ⟨.pod, id, [], none, childrenOf ids⟩
    | some .vnode, cpu :: mem :: address :: ids =>
      some ⟨.vnode, id, [cpu, mem], some address, childrenOf ids⟩
    | some .node, cpu :: mem :: address :: ids =>
      some ⟨.node, id, [cpu, mem], some address, childrenOf ids⟩
    | _, _ => none
  | _ => none

/-- Read a record line. -/
def ofLine? (line : String) : Option Row :=
  ofFields? ((cutFields line.toList).map String.ofList)

/-- Read every data line of a text. -/
def decode (text : String) : Option (List Row) := (dataLines text).mapM ofLine?

theorem childrenOf_childFields {children : List String} (named : "" ∉ children) :
    childrenOf (childFields children) = children := by
  unfold childrenOf childFields
  split
  · rename_i none
    rw [none]
    rfl
  · refine if_neg ?_
    rintro rfl
    exact named List.mem_cons_self

/-- The fields of an instance are read as its row, if no child has an empty id. -/
theorem ofFields?_fields {it : Instance} (named : "" ∉ it.children) :
    ofFields? it.fields = some it.row := by
  have kinds : Kind.ofName? it.kind.name = some it.kind := Kind.ofName?_eq_some_iff.mpr rfl
  have ids := childrenOf_childFields named
  unfold Instance.fields ofFields?
  dsimp only
  rw [kinds]
  cases it with
  | container it => rfl
  | pod it => exact congrArg (fun ids => some (Row.mk .pod it.id [] none ids)) ids
  | vnode it =>
      exact congrArg (fun ids => some (Row.mk .vnode it.id [it.cpu.text, it.mem.text]
        (some it.address.text) ids)) ids
  | node it =>
      exact congrArg (fun ids => some (Row.mk .node it.id [it.cpu.text, it.mem.text]
        (some it.address.text) ids)) ids

/-- The record line of an instance is read as its row, if no id holds a separator and no
child has an empty id. -/
theorem ofLine?_recordLine {it : Instance} (named : "" ∉ it.children)
    (whole : ∀ id ∈ it.id :: it.children, Text.Whole id.toList) :
    ofLine? it.recordLine = some it.row := by
  obtain ⟨own, listed⟩ := List.forall_mem_cons.mp whole
  have fields := Instance.forall_mem_fields (fun text plain => plain.whole) own listed
  have cut : cutFields it.recordLine.toList = it.fields.map String.toList := by
    rw [Instance.recordLine_eq, String.toList_intercalate]
    refine cutFields_intercalate (by simp [Instance.fields]) ?_
    exact List.forall_mem_map.mpr fields
  have back : (it.fields.map String.toList).map String.ofList = it.fields := by
    rw [List.map_map]
    exact (List.map_congr_left fun text _ => String.ofList_toList).trans (List.map_id _)
  rw [ofLine?, cut, back, ofFields?_fields named]

theorem mapM_map_eq_some {α β γ : Type} {items : List α} {write : α → β} {read : β → Option γ}
    {view : α → γ} (back : ∀ item ∈ items, read (write item) = some (view item)) :
    (items.map write).mapM read = some (items.map view) := by
  induction items with
  | nil => rfl
  | cons item rest ih =>
      obtain ⟨here, there⟩ := List.forall_mem_cons.mp back
      rw [List.map_cons, List.mapM_cons, here, ih there]
      rfl

end Row

/-! ### Whole files -/

/-- A key that is unfolded is that of a stored template. -/
theorem Store.contains_of_mem_unfolding {store : Store} {entry : Entry}
    (member : entry ∈ store.unfolding) : store.contains entry.kind entry.key = true := by
  rw [contains_eq_isSome_find?, store.holds_unfolding entry member, Option.isSome_some]

/-- If no stored key holds a separator or a line feed, the file that is written of an
expansion, in either layout, is read back as the rows of its instances in the order of
that layout. -/
theorem decode_render {store : Store} {context : Context} {expansion : Expansion}
    (clean : ∀ kind key, store.contains kind key = true →
      ¬ fieldSeparator.toList <:+: key.toList ∧ '\n' ∉ key.toList)
    (finished : (store.expand context).result = .ok expansion) (layout : Layout) :
    Row.decode (expansion.topology.render layout) =
      some ((expansion.topology.inLayout layout).map Instance.row) := by
  have ids : ∀ it ∈ expansion.topology.instances, ∀ id ∈ it.id :: it.children,
      Text.Whole id.toList ∧ '\n' ∉ id.toList ∧ id ≠ "" := by
    intro it member id held
    obtain ⟨entry, unfolded, number, rfl⟩ := exists_idOf_eq finished member held
    obtain ⟨whole, single⟩ := clean _ _ (Store.contains_of_mem_unfolding unfolded)
    obtain ⟨tail, plain, nonempty, text⟩ := IdAllocator.exists_toList_idOf entry.key number
    refine ⟨?_, newline_notMem_idOf_iff.mpr single, ?_⟩
    · rw [text]
      exact Text.Whole.append whole plain
    · intro empty
      rw [empty] at text
      exact nonempty (List.append_eq_nil_iff.mp text.symm).2
  rw [Row.decode, Topology.dataLines_render fun it member id held => (ids it member id held).2.1]
  refine Row.mapM_map_eq_some fun it member => ?_
  have member := (expansion.topology.inLayout_perm layout).mem_iff.mp member
  refine Row.ofLine?_recordLine (fun empty => ?_) fun id held => (ids it member id held).1
  exact (ids it member "" (List.mem_cons_of_mem _ empty)).2.2 rfl

theorem decode_render_twofold :
    ∃ expansion, (Store.twofold.expand (.fresh .shared ⟨10, 0, 0, 1⟩ ⟨10, 1, 0, 1⟩)).result =
        .ok expansion ∧
      Row.decode (expansion.topology.render .grouped) =
        some ((expansion.topology.inLayout .grouped).map Instance.row) := by
  obtain ⟨expansion, finished⟩ : ∃ expansion,
      (Store.twofold.expand (.fresh .shared ⟨10, 0, 0, 1⟩ ⟨10, 1, 0, 1⟩)).result =
        .ok expansion := Run.exists_of_isOk (by decide +kernel)
  have clean : ∀ kind key, Store.twofold.contains kind key = true →
      ¬ fieldSeparator.toList <:+: key.toList ∧ '\n' ∉ key.toList := by
    intro kind
    cases kind <;> simp only [Store.contains, Shelf.contains_iff_mem_order] <;> decide
  exact ⟨expansion, finished, decode_render clean finished .grouped⟩

end ClusterTopology
