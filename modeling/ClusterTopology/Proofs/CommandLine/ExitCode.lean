import ClusterTopology.Proofs.CommandLine.Course
import ClusterTopology.Proofs.CommandLine.Settings
import ClusterTopology.Proofs.Expansion.Skipping
import ClusterTopology.Proofs.TemplateFile.Accepted

/-!
What an exit code tells.

With the output in reach a run ends in one of three ways: it has nothing to expand, for want
of settings or of an input; the addresses run out; or it comes to its end, and then it has
written its rendering (`Course.ends`). The exit code tells these apart, and tells of a run
that came to its end whether anything was dropped on the way: `exitCode_respond`.
-/

namespace ClusterTopology.CommandLine

/-- The templates that a text holds. -/
def storeOf (text : String) : Store := Store.empty.insertAll (TemplateFile.accepted text)

/-- What expanding the templates that a text holds gives under these settings. -/
def expansionOf (settings : Settings) (text : String) : Except Error Expansion :=
  ((storeOf text).expand (.ofSettings settings)).result

/-- Nothing of a text is dropped: every line that is not ignored holds a template, and every
reference below a node leads somewhere. -/
structure Lossless (text : String) : Prop where
  lines : ∀ raw ∈ Text.lines text.toList,
    TemplateFile.Ignored raw ∨ (TemplateFile.template? raw).isSome = true
  nodes : ∀ node ∈ (storeOf text).nodes.values, (storeOf text).nodeResolves node = true

section Expansions

variable {settings : Settings} {text : String}

theorem result_run_of :
    (Generation.of settings text).run.result = expansionOf settings text := by
  rw [expansionOf, storeOf, ← TemplateFile.store_load]
  rfl

/-- An expansion fails for want of addresses only. -/
theorem expansionOf_error {error : Error} (failed : expansionOf settings text = .error error) :
    ∃ kind key last, error = .addressesExhausted kind key last :=
  Error.isFatal_iff.mp (emitAll_error_isFatal (expand_error failed))

/-- The nodes skipped are those below which a reference dangles. -/
theorem skipped_eq_nil_iff {expansion : Expansion}
    (expanded : expansionOf settings text = .ok expansion) :
    expansion.skipped = [] ↔
      ∀ node ∈ (storeOf text).nodes.values, (storeOf text).nodeResolves node = true := by
  obtain ⟨bares, -, rfl⟩ := expand_ok expanded
  simp [Store.assembled, Store.skipped]

theorem isClean_of_iff {expansion : Expansion}
    (expanded : expansionOf settings text = .ok expansion) :
    (Outcome.of (Generation.of settings text).load.report expansion).isClean = true ↔
      Lossless text := by
  have lines := TemplateFile.rejected_load_eq_nil_iff text
  have nodes := skipped_eq_nil_iff expanded
  have clean : (Outcome.of (Generation.of settings text).load.report expansion).isClean = true ↔
      expansion.skipped = [] ∧ (TemplateFile.load .empty text).report.rejected = [] := by
    simp [Outcome.isClean, Outcome.of, Generation.of]
  rw [clean, lines, nodes]
  exact ⟨fun ⟨nodes, lines⟩ => ⟨lines, nodes⟩, fun lossless => ⟨lossless.nodes, lossless.lines⟩⟩

end Expansions

section Ends

variable {directory : Directory} {arguments : Arguments}

/-- Settings and text are those of the arguments and of the input. -/
theorem Prepared.unique {settings other : Settings} {text words : String}
    (prepared : Prepared directory arguments settings text)
    (again : Prepared directory arguments other words) : settings = other ∧ text = words := by
  have resolved := again.resolved
  have readable := Directory.read_eq_ok_iff.mpr again.readable
  rw [prepared.resolved] at resolved
  rw [Directory.read_eq_ok_iff.mpr prepared.readable] at readable
  exact ⟨Except.ok.inj resolved, Except.ok.inj readable⟩

variable (directory arguments) in
/-- Settings and input are there, and they expand to this. -/
structure Finishes (settings : Settings) (text : String) (expansion : Expansion) : Prop where
  prepared : Prepared directory arguments settings text
  expanded : expansionOf settings text = .ok expansion

variable (directory arguments) in
/-- Settings and input are there and they expand. -/
def Expands : Prop :=
  ∃ settings text expansion, Finishes directory arguments settings text expansion

variable (directory arguments) in
/-- Settings and input are there, but expanding takes more addresses than there are. -/
def RunsOut : Prop :=
  ∃ settings text kind key last, Prepared directory arguments settings text ∧
    expansionOf settings text = .error (.addressesExhausted kind key last)

/-- With the output in reach if there is any, a run has nothing to expand, or runs out of
addresses, or comes to its end and writes what it was to write. -/
theorem Course.ends {result : Except Failure Outcome} {after : Directory} {location : Location}
    (course : Course directory arguments result after)
    (writable : Expands directory arguments →
      directory.locateToWrite arguments.output = .ok location) :
    (∃ failure, result = .error failure ∧ failure.exitCode = 1 ∧ after = directory ∧
        ∀ settings text, ¬ Prepared directory arguments settings text) ∨
      (∃ failure, result = .error failure ∧ failure.exitCode = 4 ∧ after = directory ∧
        RunsOut directory arguments) ∨
      ∃ settings text expansion outcome, result = .ok outcome ∧
        (outcome.isClean = true ↔ Lossless text) ∧
        after = directory.put location (expansion.topology.render settings.layout).toUTF8 ∧
        Finishes directory arguments settings text expansion := by
  cases course with
  | unresolved refused =>
      left
      refine ⟨_, rfl, ?_, rfl, fun settings text prepared => ?_⟩
      · rw [Failure.exitCode, nonfatal_resolve _ _ _ refused]
        rfl
      · rw [prepared.resolved] at refused
        cases refused
  | unread _ refused =>
      left
      refine ⟨_, rfl, rfl, rfl, fun settings text prepared => ?_⟩
      rw [Directory.read_eq_ok_iff.mpr prepared.readable] at refused
      cases refused
  | failed prepared refused =>
      right; left
      rw [result_run_of] at refused
      obtain ⟨kind, key, last, rfl⟩ := expansionOf_error refused
      exact ⟨_, rfl, rfl, rfl, _, _, kind, key, last, prepared, refused⟩
  | unwritten prepared expanded refused =>
      rw [result_run_of] at expanded
      rw [writable ⟨_, _, _, prepared, expanded⟩] at refused
      cases refused
  | written prepared expanded located =>
      right; right
      rw [result_run_of] at expanded
      rw [writable ⟨_, _, _, prepared, expanded⟩] at located
      obtain rfl := Except.ok.inj located
      exact ⟨_, _, _, _, rfl, isClean_of_iff expanded, rfl, prepared, expanded⟩

/-- What a run that finishes expands is settled by its arguments and the directory. -/
theorem Finishes.unique {settings other : Settings} {text words : String}
    {expansion again : Expansion} (finishes : Finishes directory arguments settings text expansion)
    (finishesAgain : Finishes directory arguments other words again) :
    settings = other ∧ text = words ∧ expansion = again := by
  obtain ⟨rfl, rfl⟩ := finishes.prepared.unique finishesAgain.prepared
  have expanded := finishes.expanded
  rw [finishesAgain.expanded] at expanded
  exact ⟨rfl, rfl, (Except.ok.inj expanded).symm⟩

/-- What expands does not run out of addresses. -/
theorem Expands.not_runsOut (expands : Expands directory arguments) :
    ¬ RunsOut directory arguments := by
  rintro ⟨settings, text, kind, key, last, prepared, failed⟩
  obtain ⟨_, _, _, finishes⟩ := expands
  obtain ⟨rfl, rfl⟩ := finishes.prepared.unique prepared
  rw [finishes.expanded] at failed
  cases failed

end Ends

/-- The exit code of a run that came to its end tells whether anything was dropped. -/
theorem Outcome.exitCode_of_clean {outcome : Outcome} {lossless : Prop}
    (clean : outcome.isClean = true ↔ lossless) :
    (outcome.exitCode = 0 ∨ outcome.exitCode = 3) ∧ (outcome.exitCode = 0 ↔ lossless) ∧
      (outcome.exitCode = 3 ↔ ¬ lossless) := by
  rw [← clean, exitCode]
  cases outcome.isClean <;> decide

theorem Conclusion.exitCode_of_error {conclusion : Conclusion} {failure : Failure}
    (result : conclusion.result = .error failure) : conclusion.exitCode = failure.exitCode := by
  rw [exitCode, result]

theorem Conclusion.exitCode_of_ok {conclusion : Conclusion} {outcome : Outcome}
    (result : conclusion.result = .ok outcome) : conclusion.exitCode = outcome.exitCode := by
  rw [exitCode, result]

/-- Words that spell out arguments lead to a run. -/
theorem run_respond {words : List String} {arguments : Arguments}
    (accepted : Arguments.ofWords words = .ok arguments) (directory : Directory) :
    (respond Directory.environment words).run directory =
      (.run arguments ((execute Directory.environment arguments).run directory).1,
        ((execute Directory.environment arguments).run directory).2) := by
  rw [respond, accepted]
  rfl

/-- Exit codes tell the truth about the output. For words that spell out arguments, in a
directory that has a place for the output if there is any, the code is 0 or 3 exactly when
settings and input are there and expand; then the output holds the rendering of that expansion
in the layout of the settings and no other file has changed, and the code is 0 or 3 according
to whether nothing was dropped. The code is 4 exactly when settings and input are there and
the addresses run out, and 1 in every other case, and either way no file has changed. -/
theorem exitCode_respond {words : List String} {arguments : Arguments} {directory : Directory}
    {location : Location} (accepted : Arguments.ofWords words = .ok arguments)
    (writable : Expands directory arguments →
      directory.locateToWrite arguments.output = .ok location) :
    let ended := (respond Directory.environment words).run directory
    (ended.1.exitCode = 0 ∨ ended.1.exitCode = 3 ↔ Expands directory arguments) ∧
      (∀ settings text expansion, Finishes directory arguments settings text expansion →
        ended.2.contents? location =
            some (expansion.topology.render settings.layout).toUTF8 ∧
          (∀ other, other ≠ location →
            ended.2.contents? other = directory.contents? other) ∧
          (ended.1.exitCode = 0 ↔ Lossless text) ∧
          (ended.1.exitCode = 3 ↔ ¬ Lossless text)) ∧
      (ended.1.exitCode = 4 ↔ RunsOut directory arguments) ∧
      (ended.1.exitCode = 1 ↔
        ¬ Expands directory arguments ∧ ¬ RunsOut directory arguments) ∧
      (ended.1.exitCode = 4 ∨ ended.1.exitCode = 1 → ended.2 = directory) := by
  rw [run_respond accepted]
  have course := execute_course directory arguments
  generalize (execute Directory.environment arguments).run directory = ended at course ⊢
  obtain ⟨conclusion, after⟩ := ended
  dsimp only at course ⊢
  rcases course.ends writable with ⟨failure, result, code, kept, unprepared⟩ |
      ⟨failure, result, code, kept, runsOut⟩ |
      ⟨settings, text, expansion, outcome, result, clean, left, finishes⟩
  · -- There is nothing to expand.
    have failed : (Response.run arguments conclusion).exitCode = 1 :=
      (Conclusion.exitCode_of_error result).trans code
    have unfinished : ¬ Expands directory arguments := by
      rintro ⟨settings, text, expansion, finishes⟩
      exact unprepared settings text finishes.prepared
    have unspent : ¬ RunsOut directory arguments := by
      rintro ⟨settings, text, kind, key, last, prepared, -⟩
      exact unprepared settings text prepared
    refine ⟨?_, ?_, ?_, ?_, fun _ => kept⟩
    · exact iff_of_false (by omega) unfinished
    · intro settings text expansion finishes
      exact absurd ⟨settings, text, expansion, finishes⟩ unfinished
    · exact iff_of_false (by omega) unspent
    · exact iff_of_true failed ⟨unfinished, unspent⟩
  · -- The addresses run out.
    have failed : (Response.run arguments conclusion).exitCode = 4 :=
      (Conclusion.exitCode_of_error result).trans code
    have unfinished : ¬ Expands directory arguments :=
      fun expands => expands.not_runsOut runsOut
    refine ⟨?_, ?_, ?_, ?_, fun _ => kept⟩
    · exact iff_of_false (by omega) unfinished
    · intro settings text expansion finishes
      exact absurd ⟨settings, text, expansion, finishes⟩ unfinished
    · exact iff_of_true failed runsOut
    · exact iff_of_false (by omega) fun neither => neither.2 runsOut
  · -- The run comes to its end.
    have finished : (Response.run arguments conclusion).exitCode = outcome.exitCode :=
      Conclusion.exitCode_of_ok result
    obtain ⟨code, zero, three⟩ := Outcome.exitCode_of_clean clean
    rw [finished, left]
    have expands : Expands directory arguments := ⟨settings, text, expansion, finishes⟩
    refine ⟨iff_of_true code expands, ?_, ?_, ?_, ?_⟩
    · intro other words again finishesAgain
      obtain ⟨rfl, rfl, rfl⟩ := finishes.unique finishesAgain
      refine ⟨?_, fun other elsewhere => ?_, zero, three⟩
      · rw [Directory.contents?_put, if_pos rfl]
      · rw [Directory.contents?_put, if_neg elsewhere]
    · exact iff_of_false (by omega) expands.not_runsOut
    · exact iff_of_false (by omega) fun neither => neither.1 expands
    · intro failed
      omega

/-- One node, and a line that is no record. -/
def flawedText : String :=
  "node, \x7b\"kind\": \"node\", \"key\": \"n\", \"cpu\": 1, \"mem\": 1, \"vnodes\": [], " ++
    "\"num\": 1\x7d\n" ++
  "broken\n"

/-- That text, beside the output of an earlier run. -/
def flawedDirectory : Directory where
  files := [(["in"], flawedText.toUTF8), (["out"], "old".toUTF8)]

theorem exitCode_respond_flawed :
    let words := ["in", "out"]
    let arguments : Arguments := { input := "in", output := "out" }
    Arguments.ofWords words = .ok arguments ∧
      flawedDirectory.locateToWrite arguments.output = .ok ["out"] ∧
      let ended := (respond Directory.environment words).run flawedDirectory
      ended.1.exitCode = 3 ∧
        ended.2.contents? ["out"] =
          some "# node, n-1\nnode, n-1, 1, 1, 200.1.1.2, \n\n\n".toUTF8 ∧
        ended.2.contents? ["in"] = some flawedText.toUTF8 := by
  intro words arguments
  have accepted : Arguments.ofWords words = .ok arguments := by decide +kernel
  have writable : flawedDirectory.locateToWrite arguments.output = .ok ["out"] := by
    decide +kernel
  let expansion : Expansion :=
    { topology := ⟨[.node ⟨"n-1", .integer 1, .integer 1, ⟨200, 1, 1, 2⟩, []⟩]⟩ }
  have finishes : Finishes flawedDirectory arguments {} flawedText expansion := by
    refine ⟨⟨rfl, ["in"], ?_, rfl⟩, ?_⟩
    · decide +kernel
    · decide +kernel
  have rendering : expansion.topology.render .emission =
      "# node, n-1\nnode, n-1, 1, 1, 200.1.1.2, \n\n\n" := by
    decide +kernel
  have lossy : ¬ Lossless flawedText := by
    intro lossless
    rcases lossless.lines "broken".toList (by decide +kernel) with ignored | held
    · revert ignored
      unfold TemplateFile.Ignored
      decide +kernel
    · revert held
      decide +kernel
  obtain ⟨-, written, -⟩ := exitCode_respond accepted fun _ => writable
  obtain ⟨output, kept, -, three⟩ := written {} flawedText expansion finishes
  refine ⟨accepted, writable, three.mpr lossy, ?_, ?_⟩
  · rw [← rendering]
    exact output
  · exact kept ["in"] (by decide)

end ClusterTopology.CommandLine
