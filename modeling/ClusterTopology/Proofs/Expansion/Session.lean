import ClusterTopology.Proofs.Expansion.Run

/-!
Sessions: requests of all sorts, served one after the other by the same allocators.

A request that fails gives nothing, but what it has spent on its way stays spent.
`Request.serve_issues` is what one request does: what it gives is part of what it
issues. `serveAll_issues` is the same of a session, and so nothing is given twice:
`nodup_serveAll`.
-/

namespace ClusterTopology

/-- What may be asked of the allocators. -/
inductive Request where
  | expand (store : Store)
  | id (kind : Kind) (key : String)
  | address (kind : Kind) (key : String)

/-- What the instances of a run bear. A run that fails has none. -/
def Run.given (run : Run) : List Issue :=
  match run.result with
  | .ok expansion => expansion.topology.instances.flatMap Instance.issues
  | .error _ => []

/-- What a request gives, and the allocators after it. -/
def Request.serve (request : Request) (context : Context) : List Issue × Context :=
  match request with
  | .expand store =>
    let run := store.expand context
    (run.given, run.context)
  | .id kind key =>
    match drawId kind key context with
    | .ok text after => ([.id kind text], after)
    | .error _ after => ([], after)
  | .address kind key =>
    match drawAddress kind key context with
    | .ok granted after => ([.address kind granted], after)
    | .error _ after => ([], after)

/-- What requests give, served in order. -/
def serveAll : List Request → Context → List Issue × Context
  | [], context => ([], context)
  | request :: requests, context =>
    let (given, middle) := request.serve context
    let (more, after) := serveAll requests middle
    (given ++ more, after)

/-- What a request gives has been issued for it. -/
theorem Request.serve_issues (request : Request) (context : Context) :
    ∃ log, Issues context log (request.serve context).2 ∧
      (request.serve context).1.Sublist log := by
  cases request with
  | expand store =>
      cases result : (store.expand context).result with
      | ok expansion =>
          refine ⟨_, expand_ok_issues result, ?_⟩
          simp [serve, Run.given, result]
      | error error =>
          obtain ⟨log, issues⟩ := expand_error_issues result
          refine ⟨log, issues, ?_⟩
          simp [serve, Run.given, result]
  | id kind key =>
      cases drawn : drawId kind key context with
      | ok text after =>
          simp only [serve, drawn]
          exact ⟨_, .id drawn (.none after), .refl _⟩
      | error error after =>
          obtain ⟨-, rfl⟩ := drawId_error drawn
          simp only [serve, drawn]
          exact ⟨[], .none _, .refl _⟩
  | address kind key =>
      cases drawn : drawAddress kind key context with
      | ok granted after =>
          simp only [serve, drawn]
          exact ⟨_, .address drawn (.none after), .refl _⟩
      | error error after =>
          obtain ⟨rfl, -⟩ := drawAddress_error drawn
          simp only [serve, drawn]
          exact ⟨[], .none _, .refl _⟩

/-- What the requests of a session give has been issued on the way. -/
theorem serveAll_issues (requests : List Request) (context : Context) :
    ∃ log, Issues context log (serveAll requests context).2 ∧
      (serveAll requests context).1.Sublist log := by
  induction requests generalizing context with
  | nil => exact ⟨[], .none context, .refl _⟩
  | cons request requests ih =>
      obtain ⟨first, firstIssues, given⟩ := request.serve_issues context
      obtain ⟨rest, restIssues, more⟩ := ih (request.serve context).2
      exact ⟨first ++ rest, firstIssues.append restIssues, given.append more⟩

/-- Whatever is requested and however often a request fails, no id and no address is given
twice for the same kind. -/
theorem nodup_serveAll (requests : List Request) (context : Context) :
    (serveAll requests context).1.Nodup := by
  obtain ⟨log, issues, given⟩ := serveAll_issues requests context
  exact issues.nodup.sublist given

end ClusterTopology
