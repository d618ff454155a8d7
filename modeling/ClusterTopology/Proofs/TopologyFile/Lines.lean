import ClusterTopology.TemplateFile.Load
import ClusterTopology.Proofs.Expansion.Forest
import ClusterTopology.Proofs.Text.Lines
import ClusterTopology.Proofs.TopologyFile.Record

/-!
The lines of a topology file.

The data lines of a text are those that are neither empty nor comments. Those of a
topology file are meant to be the record lines of its instances, one for each, in the
order of the layout; the grouped layout sorts them by kind and keeps the order within a
kind (`flatMap_ofKind`). They are so exactly when no key that is unfolded holds a line
feed (`dataLines_render_iff`). A record can give its key one, and
`dataLines_render_forged` is a file in which a single node takes up three data lines.
-/

namespace ClusterTopology

/-! ### Data lines -/

/-- Whether a line is neither empty nor a comment. -/
def isData (line : List Char) : Bool := line.head?.any (· != TemplateFile.commentMark)

/-- The lines between line feeds, less the empty ones and the comments. -/
def dataLines (text : String) : List String :=
  ((text.toList.splitOn '\n').filter isData).map String.ofList

theorem newline_notMem_of_mem_dataLines {text line : String} (member : line ∈ dataLines text) :
    '\n' ∉ line.toList := by
  obtain ⟨piece, kept, rfl⟩ := List.mem_map.mp member
  rw [String.toList_ofList]
  exact newline_notMem_of_mem_linesOf (List.mem_filter.mp kept).1

theorem dataLines_append (line rest : String) :
    dataLines (line ++ "\n" ++ rest) = dataLines line ++ dataLines rest := by
  rw [dataLines, ← linesOf, linesOf_append, List.filter_append, List.map_append]
  rfl

/-- Lines that are each ended by a line feed can be looked at one by one. -/
theorem dataLines_join (lines : List String) :
    dataLines (String.join (lines.map (· ++ "\n"))) = lines.flatMap dataLines := by
  induction lines with
  | nil => rfl
  | cons line rest ih =>
      rw [List.map_cons, String.join_cons, dataLines_append, ih, List.flatMap_cons]

/-- A text without line feeds is one line. -/
theorem dataLines_of_notMem {line : String} (single : '\n' ∉ line.toList) :
    dataLines line = if isData line.toList then [line] else [] := by
  rw [dataLines, ← linesOf, linesOf_of_notMem single]
  split
  · rename_i data
    rw [List.filter_cons_of_pos data, List.filter_nil, List.map_singleton, String.ofList_toList]
  · rename_i bare
    rw [List.filter_cons_of_neg bare, List.filter_nil, List.map_nil]

/-! ### The order of a layout -/

section Sorting

variable {α κ : Type} {items : List α}

/-- A stable sort changes nothing among items of which none has to come before another. -/
theorem filter_mergeSort {before : α → α → Bool} {passes : α → Bool}
    (trans : ∀ a b c, before a b → before b c → before a c)
    (total : ∀ a b, before a b || before b a)
    (alike : ∀ a b, passes a → passes b → before a b) :
    (items.mergeSort before).filter passes = items.filter passes := by
  have sorted : (items.filter passes).Pairwise fun a b => before a b := by
    refine List.pairwise_of_forall_mem_list fun a inside b within => ?_
    exact alike a b (List.mem_filter.mp inside).2 (List.mem_filter.mp within).2
  have kept := (List.sublist_mergeSort trans total sorted List.filter_sublist).filter passes
  simp only [List.filter_filter, Bool.and_self] at kept
  refine (kept.eq_of_length ?_).symm
  exact (((List.mergeSort_perm items before).filter passes).length_eq).symm

/-- What passes and what does not make up a list in which nothing passes after something
that does not. -/
theorem filter_append_filter_not {passes : α → Bool}
    (first : items.Pairwise fun item other => passes other = true → passes item = true) :
    items.filter passes ++ items.filter (fun item => !passes item) = items := by
  induction items with
  | nil => rfl
  | cons item rest ih =>
      obtain ⟨ahead, first⟩ := List.pairwise_cons.mp first
      cases own : passes item with
      | true =>
          rw [List.filter_cons_of_pos own, List.filter_cons_of_neg (by simp [own]),
            List.cons_append, ih first]
      | false =>
          have fails : ∀ other ∈ rest, passes other = false := by
            intro other inside
            refine Bool.eq_false_iff.mpr fun later => ?_
            rw [ahead other inside later] at own
            cases own
          have none : rest.filter passes = [] :=
            List.filter_eq_nil_iff.mpr fun other inside => by simp [fails other inside]
          have all : rest.filter (fun item => !passes item) = rest :=
            List.filter_eq_self.mpr fun other inside => by simp [fails other inside]
          rw [List.filter_cons_of_neg (by simp [own]), List.filter_cons_of_pos (by simp [own]),
            none, all, List.nil_append]

/-- A sorted list is made of the items of each kind, kind after kind. -/
theorem flatMap_filter_of_sorted [DecidableEq κ] (kindOf : α → κ) (rank : κ → Nat)
    {kinds : List κ} (rising : kinds.Pairwise fun kind other => rank kind < rank other)
    (covered : ∀ item ∈ items, kindOf item ∈ kinds)
    (sorted : items.Pairwise fun item other => rank (kindOf item) ≤ rank (kindOf other)) :
    kinds.flatMap (fun kind => items.filter fun item => kindOf item == kind) = items := by
  induction kinds generalizing items with
  | nil =>
      have none : items = [] := List.eq_nil_iff_forall_not_mem.mpr fun item inside =>
        List.not_mem_nil (covered item inside)
      rw [none]
      rfl
  | cons kind kinds ih =>
      obtain ⟨least, rising⟩ := List.pairwise_cons.mp rising
      -- What is of another kind is of a greater one, and is sorted by itself.
      have others : kinds.flatMap (fun other => items.filter fun item => kindOf item == other) =
          items.filter fun item => !(kindOf item == kind) := by
        have later : ∀ item ∈ items.filter (fun item => !(kindOf item == kind)),
            kindOf item ∈ kinds := by
          intro item kept
          obtain ⟨inside, differs⟩ := List.mem_filter.mp kept
          exact List.mem_of_ne_of_mem (by simpa using differs) (covered item inside)
        rw [← ih rising later (sorted.sublist List.filter_sublist)]
        refine List.flatMap_congr fun other among => ?_
        rw [List.filter_filter]
        refine List.filter_congr fun item _ => ?_
        have differs : other ≠ kind := by
          rintro rfl
          exact Nat.lt_irrefl _ (least other among)
        by_cases own : kindOf item = other
        · simp [own, differs]
        · simp [own]
      rw [List.flatMap_cons, others]
      refine filter_append_filter_not (sorted.imp_of_mem fun {item other} inside _ ordered => ?_)
      intro same
      rw [beq_iff_eq] at same ⊢
      rcases List.mem_cons.mp (covered item inside) with own | greater
      · exact own
      · have above := least _ greater
        rw [same] at ordered
        omega

end Sorting

/-- The place of a kind among those that are expanded. -/
def Kind.rank (kind : Kind) : Nat := Kind.expanded.idxOf kind

theorem Instance.kind_mem_expanded (it : Instance) : it.kind ∈ Kind.expanded := by
  cases it <;> simp [Instance.kind, Kind.expanded]

namespace Topology

/-- The instances of a topology in the order of a layout. -/
def inLayout (topology : Topology) : Layout → List Instance
  | .emission => topology.instances
  | .grouped => topology.instances.mergeSort fun it other => it.kind.rank ≤ other.kind.rank

variable {topology : Topology}

/-- No layout leaves an instance out or repeats one. -/
theorem inLayout_perm (topology : Topology) (layout : Layout) :
    (topology.inLayout layout).Perm topology.instances := by
  cases layout with
  | emission => exact .refl _
  | grouped => exact List.mergeSort_perm _ _

/-- The sections of the grouped layout, one after the other, are the instances sorted by
kind. -/
theorem flatMap_ofKind : Kind.expanded.flatMap topology.ofKind = topology.inLayout .grouped := by
  have trans : ∀ a b c : Instance, decide (a.kind.rank ≤ b.kind.rank) = true →
      decide (b.kind.rank ≤ c.kind.rank) = true → decide (a.kind.rank ≤ c.kind.rank) = true := by
    intro a b c first second
    exact decide_eq_true (Nat.le_trans (of_decide_eq_true first) (of_decide_eq_true second))
  have total : ∀ a b : Instance,
      (decide (a.kind.rank ≤ b.kind.rank) || decide (b.kind.rank ≤ a.kind.rank)) = true := by
    intro a b
    rcases Nat.le_total a.kind.rank b.kind.rank with first | second
    · simp [first]
    · simp [second]
  have sorted := List.pairwise_mergeSort trans total topology.instances
  calc Kind.expanded.flatMap topology.ofKind
      = Kind.expanded.flatMap fun kind => (topology.inLayout .grouped).filter fun it =>
          it.kind == kind := by
        refine List.flatMap_congr fun kind _ => (filter_mergeSort trans total ?_).symm
        intro a b here there
        rw [beq_iff_eq.mp here, beq_iff_eq.mp there]
        exact decide_eq_true (Nat.le_refl _)
    _ = topology.inLayout .grouped := by
        refine flatMap_filter_of_sorted Instance.kind Kind.rank (by decide)
          (fun it _ => it.kind_mem_expanded) ?_
        exact sorted.imp of_decide_eq_true

end Topology

/-! ### Record lines -/

/-- The id and the ids of the children hold no line feed. -/
def Instance.Unbroken (it : Instance) : Prop := ∀ id ∈ it.id :: it.children, '\n' ∉ id.toList

/-- What joined texts hold is held by one of them or by the separator. -/
theorem notMem_intercalate_iff {c : Char} {separator : String} {texts : List String}
    (other : c ∉ separator.toList) :
    c ∉ (separator.intercalate texts).toList ↔ ∀ text ∈ texts, c ∉ text.toList := by
  induction texts with
  | nil => simp
  | cons text rest ih =>
      rw [List.forall_mem_cons, ← ih]
      by_cases last : rest = []
      · subst last
        simp
      · rw [String.intercalate_cons_of_ne_nil last, String.toList_append, String.toList_append,
          List.mem_append, List.mem_append]
        simp only [other, or_false, not_or]

namespace Instance

variable {it : Instance}

/-- A record line is a single line when the ids it lists are. -/
theorem newline_notMem_recordLine_iff : '\n' ∉ it.recordLine.toList ↔ it.Unbroken := by
  rw [recordLine_eq, notMem_intercalate_iff (by decide)]
  constructor
  · intro single id held
    exact single id (mem_fields held)
  · intro unbroken
    obtain ⟨own, listed⟩ := List.forall_mem_cons.mp unbroken
    exact forall_mem_fields (fun text plain => plain.notMem (by decide)) own listed

/-- A record line is data: it begins with the name of a kind. -/
theorem isData_recordLine (it : Instance) : isData it.recordLine.toList = true := by
  rw [recordLine_eq, fields, String.intercalate_cons_cons, String.toList_append,
    String.toList_append]
  cases it.kind <;> rfl

/-- Nothing that sets an instance off is data. -/
theorem flatMap_dataLines_framedLines (unbroken : it.Unbroken) :
    it.framedLines.flatMap dataLines = [it.recordLine] := by
  have heading : it.heading.flatMap dataLines = [] := by
    unfold heading
    split
    · have single : '\n' ∉ ("# " ++ it.kind.name ++ fieldSeparator ++ it.id).toList := by
        simp only [String.toList_append, List.mem_append, not_or]
        exact ⟨⟨⟨by decide, it.kind.plain_name.notMem (by decide)⟩, by decide⟩,
          unbroken it.id List.mem_cons_self⟩
      rw [List.flatMap_singleton, dataLines_of_notMem single]
      simp only [String.toList_append]
      rfl
    · rfl
  have blanks : (List.replicate it.blanksAfter "").flatMap dataLines = [] := by
    refine List.flatMap_eq_nil_iff.mpr fun line blank => ?_
    rw [List.eq_of_mem_replicate blank]
    rfl
  rw [framedLines, List.flatMap_append, List.flatMap_cons, heading, blanks,
    dataLines_of_notMem (newline_notMem_recordLine_iff.mpr unbroken), if_pos it.isData_recordLine]
  rfl

end Instance

theorem Kind.flatMap_dataLines_sectionHeading (kind : Kind) :
    kind.sectionHeading.flatMap dataLines = [] := by
  cases kind <;> decide +kernel

namespace Topology

variable {topology : Topology}

/-- In either layout the data lines are those of the instances, one after the other. -/
theorem dataLines_render_eq_flatMap (topology : Topology) (layout : Layout) :
    dataLines (topology.render layout) =
      (topology.inLayout layout).flatMap fun it => it.framedLines.flatMap dataLines := by
  rw [render, dataLines_join]
  cases layout with
  | emission => exact List.flatMap_assoc
  | grouped =>
      rw [← flatMap_ofKind, List.flatMap_assoc, fileLines, List.flatMap_assoc]
      refine List.flatMap_congr fun kind _ => ?_
      rw [List.flatMap_append, List.flatMap_append, kind.flatMap_dataLines_sectionHeading,
        List.nil_append, List.flatMap_assoc]
      exact List.append_nil _

/-- The data lines of a topology whose ids hold no line feed are its record lines. -/
theorem dataLines_render (unbroken : ∀ it ∈ topology.instances, it.Unbroken) (layout : Layout) :
    dataLines (topology.render layout) =
      (topology.inLayout layout).map Instance.recordLine := by
  rw [dataLines_render_eq_flatMap, List.map_eq_flatMap]
  refine List.flatMap_congr fun it member => ?_
  exact it.flatMap_dataLines_framedLines
    (unbroken it ((topology.inLayout_perm layout).mem_iff.mp member))

end Topology

/-- An id holds a line feed when its key does. -/
theorem newline_notMem_idOf_iff {key : String} {number : Nat} :
    '\n' ∉ (IdAllocator.idOf key number).toList ↔ '\n' ∉ key.toList := by
  obtain ⟨tail, plain, -, whole⟩ := IdAllocator.exists_toList_idOf key number
  rw [whole, List.mem_append, or_iff_left (plain.notMem (by decide))]

/-- The data lines of a topology file are the record lines of the instances, in either
layout, if and only if no key that is unfolded holds a line feed. -/
theorem dataLines_render_iff {store : Store} {context : Context} {expansion : Expansion}
    (finished : (store.expand context).result = .ok expansion) (layout : Layout) :
    dataLines (expansion.topology.render layout) =
        (expansion.topology.inLayout layout).map Instance.recordLine ↔
      ∀ entry ∈ store.unfolding, '\n' ∉ entry.key.toList := by
  constructor
  · intro faithful entry member
    obtain ⟨place, entryAt⟩ := List.mem_iff_getElem?.mp member
    obtain ⟨it, itAt, own⟩ := instance_of_entry finished entryAt
    have written : it.recordLine ∈ dataLines (expansion.topology.render layout) := by
      rw [faithful]
      exact List.mem_map_of_mem ((Topology.inLayout_perm _ layout).mem_iff.mpr
        (List.mem_of_getElem? itAt))
    have unbroken := Instance.newline_notMem_recordLine_iff.mp
      (newline_notMem_of_mem_dataLines written)
    obtain ⟨number, named⟩ := (madeFrom_of_isOf entryAt own).named
    have single := unbroken it.id List.mem_cons_self
    rw [named, newline_notMem_idOf_iff] at single
    exact single
  · intro single
    refine Topology.dataLines_render (fun it member id held => ?_) layout
    obtain ⟨entry, unfolded, number, rfl⟩ := exists_idOf_eq finished member held
    exact newline_notMem_idOf_iff.mpr (single entry unfolded)

theorem dataLines_render_iff_twofold :
    ∃ expansion, (Store.twofold.expand (.fresh .shared ⟨10, 0, 0, 1⟩ ⟨10, 1, 0, 1⟩)).result =
        .ok expansion ∧
      (dataLines (expansion.topology.render .grouped) =
          (expansion.topology.inLayout .grouped).map Instance.recordLine ↔
        ∀ entry ∈ Store.twofold.unfolding, '\n' ∉ entry.key.toList) ∧
      (∀ entry ∈ Store.twofold.unfolding, '\n' ∉ entry.key.toList) ∧
      (expansion.topology.inLayout .grouped).map Instance.recordLine =
        ["container, a-1, 1, 1, 1, 1, 1, 1, 1, 1", "container, a-2, 1, 1, 1, 1, 1, 1, 1, 1",
          "container, a-3, 1, 1, 1, 1, 1, 1, 1, 1", "container, a-4, 1, 1, 1, 1, 1, 1, 1, 1",
          "pod, a-1, a-1, a-2", "pod, a-2, a-3, a-4",
          "vnode, b-1, 1, 1, 10.0.0.2, a-1", "vnode, b-2, 1, 1, 10.0.0.3, a-2",
          "node, b-1, 1, 1, 10.1.0.2, b-1", "node, b-2, 1, 1, 10.1.0.3, b-2"] := by
  have single : ∀ entry ∈ Store.twofold.unfolding, '\n' ∉ entry.key.toList := by decide
  have known : (Store.twofold.expand
      (.fresh .shared ⟨10, 0, 0, 1⟩ ⟨10, 1, 0, 1⟩)).result.toOption.map
      (fun expansion =>
        (Kind.expanded.flatMap expansion.topology.ofKind).map Instance.recordLine) = some
        ["container, a-1, 1, 1, 1, 1, 1, 1, 1, 1", "container, a-2, 1, 1, 1, 1, 1, 1, 1, 1",
          "container, a-3, 1, 1, 1, 1, 1, 1, 1, 1", "container, a-4, 1, 1, 1, 1, 1, 1, 1, 1",
          "pod, a-1, a-1, a-2", "pod, a-2, a-3, a-4",
          "vnode, b-1, 1, 1, 10.0.0.2, a-1", "vnode, b-2, 1, 1, 10.0.0.3, a-2",
          "node, b-1, 1, 1, 10.1.0.2, b-1", "node, b-2, 1, 1, 10.1.0.3, b-2"] := by
    decide +kernel
  obtain ⟨expansion, finished, written⟩ := Run.exists_of_map_result known
  refine ⟨expansion, finished, dataLines_render_iff finished .grouped, single, ?_⟩
  rw [← Topology.flatMap_ofKind]
  exact written

/-- A template line that gives its node a key with a line feed in it. -/
def forgingLine : String :=
  "node, \x7b\"kind\": \"node\", \"key\": \"a\\nnode, b\", \"cpu\": 1, \"mem\": 1, " ++
    "\"vnodes\": [], \"num\": 1\x7d"

/-- The line is accepted and stands for a single node, which is written as three data
lines in either layout. -/
theorem dataLines_render_forged :
    let load := TemplateFile.load .empty forgingLine
    let run := load.store.expand (.fresh .shared ⟨10, 1, 1, 1⟩ ⟨200, 1, 1, 1⟩)
    load.report.isClean = true ∧ ∃ expansion, run.result = .ok expansion ∧
      expansion.topology.instances.map Instance.id = ["a\nnode, b-1"] ∧
      ∀ layout, dataLines (expansion.topology.render layout) =
          ["node, b-1", "node, a", "node, b-1, 1, 1, 200.1.1.2, "] ∧
        dataLines (expansion.topology.render layout) ≠
          (expansion.topology.inLayout layout).map Instance.recordLine := by
  intro load run
  let one := Number.integer 1
  let forger := Instance.node ⟨"a\nnode, b-1", one, one, ⟨200, 1, 1, 2⟩, []⟩
  have known : run.result.toOption.map (fun expansion => expansion.topology.instances) =
      some [forger] := by
    decide +kernel
  obtain ⟨expansion, finished, alone⟩ := Run.exists_of_map_result known
  refine ⟨by decide +kernel, expansion, finished, by rw [alone]; rfl, fun layout => ?_⟩
  -- A list with one member has only one order.
  have ordered : expansion.topology.inLayout layout = [forger] :=
    List.perm_singleton.mp (alone ▸ expansion.topology.inLayout_perm layout)
  rw [Topology.dataLines_render_eq_flatMap, ordered]
  exact ⟨by decide +kernel, by decide +kernel⟩

end ClusterTopology
