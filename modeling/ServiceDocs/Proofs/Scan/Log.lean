import ServiceDocs.Proofs.Attempt
import ServiceDocs.Scan.Modules

namespace ServiceDocs.Scan

open Program

/-!
# What scanning logs

Whatever the modules are, and also when scanning them breaks off, only details are logged.

* `LogsDetails` — work that logs nothing but details;
* `LogsDetails.bind`, `LogsDetails.mapM` — such work in several parts;
* `logsDetails_scanFunction`, `logsDetails_scanClass`, `logsDetails_scanModule` — the declarations
  of functions, classes and modules;
* `level_of_mem_log_scanModules` — the modules that are scanned by name.
-/

/-- Work that logs nothing but details, whatever it finds and whether or not it breaks off. -/
def LogsDetails {α : Type} (x : Scanning α) : Prop :=
  ∀ (log : List Event) (s : Store), (∀ e ∈ log, e.level = .debug) →
    ∀ e ∈ ((x.run log).run s).1.2, e.level = .debug

variable {α β : Type}

namespace LogsDetails

theorem pure (a : α) : LogsDetails (Pure.pure a : Scanning α) := fun _ _ h => h

theorem throw (e : Fault) : LogsDetails (MonadExcept.throw e : Scanning α) := fun _ _ h => h

/-- Work in two parts logs details only when both parts do. -/
theorem bind {x : Scanning α} {f : α → Scanning β} (hx : LogsDetails x)
    (hf : ∀ a, LogsDetails (f a)) : LogsDetails (x >>= f) := by
  intro log s hlog
  have hfirst := hx log s hlog
  rcases h : (x.run log).run s with ⟨⟨r, log'⟩, s'⟩
  rw [h] at hfirst
  have hbind : ((x >>= f).run log).run s =
      ((ExceptT.bindCont f ((x.run log).run s).1.1).run ((x.run log).run s).1.2).run
        ((x.run log).run s).2 := rfl
  rw [hbind, h]
  cases r with
  | ok a => exact hf a log' s' hfirst
  | error e => exact hfirst

/-- So does work for each item of a list. -/
theorem mapM {f : α → Scanning β} (hf : ∀ a, LogsDetails (f a)) (as : List α) :
    LogsDetails (as.mapM f) := by
  induction as with
  | nil => exact pure []
  | cons a as ih =>
    rw [List.mapM_cons]
    exact (hf a).bind fun b => ih.bind fun bs => pure _

end LogsDetails

theorem logsDetails_report {e : Event} (he : e.level = .debug) : LogsDetails (report e) := by
  intro log s hlog
  show ∀ e' ∈ log ++ [e], e'.level = .debug
  simpa [or_imp, forall_and, he] using hlog

theorem logsDetails_current : LogsDetails current := fun _ _ h => h

theorem logsDetails_attempt (step : Running α) : LogsDetails (attempt step) := fun _ _ h => h

/-! ### Declarations -/

theorem logsDetails_orThrow (r : Except Fault α) : LogsDetails (orThrow r) := by
  cases r with
  | ok a => exact .pure a
  | error e => exact .throw e

theorem logsDetails_typeOf (hint : Object) : LogsDetails (typeOf hint) :=
  logsDetails_current.bind fun _ => logsDetails_orThrow _

theorem logsDetails_orReport (name : String) (hints : Running (List (String × Object))) :
    LogsDetails (orReport name hints) := by
  refine (logsDetails_attempt hints).bind fun r => ?_
  cases r with
  | ok hints => exact .pure hints
  | error e => exact (logsDetails_report rfl).bind fun _ => .pure []

theorem logsDetails_hinted (kind : DeclarationKind) (owner name : String) (hint : Object) :
    LogsDetails (hinted kind owner name hint) :=
  (logsDetails_typeOf hint).bind fun _ => .pure _

/-- The declaration of a function. -/
theorem logsDetails_scanFunction (kind : DeclarationKind) (skipFirst : Bool)
    (marks : List Annotation) (hints : List (String × Object)) (o : Object) :
    LogsDetails (scanFunction kind skipFirst marks hints o) := by
  refine logsDetails_current.bind fun s => ?_
  cases called? s o with
  | none => exact .throw _
  | some f =>
    exact (logsDetails_orReport _ _).bind fun _ => (logsDetails_typeOf _).bind fun _ =>
      (logsDetails_orThrow _).bind fun _ => (logsDetails_orThrow _).bind fun _ =>
        (LogsDetails.mapM (fun _ => logsDetails_hinted _ _ _ _) _).bind fun _ => .pure _

theorem logsDetails_scanFields (id : Nat) (owner : String) :
    LogsDetails (scanFields id owner) := by
  refine logsDetails_current.bind fun s => ?_
  dsimp only
  have hfields (own : List (String × Object)) : LogsDetails
      (if own.isEmpty then pure [] else do
        let hints ← orReport owner (Running.classHints id)
        own.mapM fun field => hinted .field owner field.1
          ((hints.lookup field.1).getD field.2)) := by
    split
    · exact .pure _
    · exact (logsDetails_orReport _ _).bind fun _ => .mapM (fun _ => logsDetails_hinted _ _ _ _) _
  split
  · split
    · exact .bind (.throw _) fun _ => hfields _
    · exact hfields _
  · exact hfields _

theorem logsDetails_scanContents (id : Nat) (owner : String) :
    LogsDetails (scanContents id owner) := by
  refine logsDetails_current.bind fun s => ?_
  have hfunction (f : Nat) (hints : List (String × Object)) : LogsDetails do
      let d ← scanFunction .constructor true [] hints (.function f)
      return [d] :=
    (logsDetails_scanFunction _ _ _ _ _).bind fun _ => .pure _
  dsimp only
  split
  · exact (logsDetails_orThrow _).bind fun _ => .pure _
  · split
    · exact (logsDetails_orReport _ _).bind (hfunction _)
    · exact hfunction _ []
  · exact logsDetails_scanFields id owner

theorem logsDetails_scanAttribute (c : ClassObject) (name : String) (o : Object) :
    LogsDetails (scanAttribute c name o) := by
  unfold scanAttribute
  split
  · exact .pure _
  · refine logsDetails_current.bind fun s => ?_
    cases method? s o with
    | none => exact .pure _
    | some m =>
      refine (logsDetails_orThrow _).bind fun qualifiedName => ?_
      split
      · exact (logsDetails_scanFunction _ _ _ _ _).bind fun _ => .pure _
      · exact .pure _

mutual
/-- The declaration of a class, with all that is nested in it. -/
theorem logsDetails_scanClass : (view : ClassView) → LogsDetails (scanClass view)
  | .mk id c members => by
    rw [scanClass]
    exact logsDetails_current.bind fun _ => (logsDetails_orThrow _).bind fun _ =>
      (logsDetails_scanContents id _).bind fun _ =>
        (logsDetails_scanMembers c members).bind fun _ => .pure _

/-- The declarations of its members. -/
theorem logsDetails_scanMembers (c : ClassObject) :
    (members : List MemberView) → LogsDetails (scanMembers c members)
  | [] => by
    rw [scanMembers]
    exact .pure _
  | .nested view :: members => by
    rw [scanMembers]
    exact (logsDetails_scanClass view).bind fun _ => (logsDetails_scanMembers c members).bind
      fun _ => .pure _
  | .plain name o :: members => by
    rw [scanMembers]
    exact (logsDetails_scanAttribute c name o).bind fun _ =>
      (logsDetails_scanMembers c members).bind fun _ => .pure _
end

theorem logsDetails_scanName (module : Nat) (name : String) (o : Object) :
    LogsDetails (scanName module name o) := by
  refine logsDetails_current.bind fun s => ?_
  split
  · split
    · exact (logsDetails_scanClass _).bind fun _ => .pure _
    · exact .pure _
  · split
    · exact (logsDetails_scanFunction _ _ _ _ _).bind fun _ => .pure _
    · exact .pure _
  · exact .pure _

/-- The declaration of a module. -/
theorem logsDetails_scanModule (id : Nat) : LogsDetails (scanModule id) :=
  logsDetails_current.bind fun _ =>
    (LogsDetails.mapM (fun _ => logsDetails_scanName _ _ _) _).bind fun _ =>
      (logsDetails_report rfl).bind fun _ => .pure _

/-! ### Several modules -/

/-- A module that is scanned by name logs details only; importing it logs nothing. -/
theorem level_of_mem_log_scanNamed {listing : Listing} {done : Scanned} {name : String} {e : Event}
    (he : e ∈ (scanNamed listing done name).log) : e.level = .debug := by
  unfold scanNamed at he
  split at he
  · cases he
  · next id store _ =>
    have hlog := logsDetails_scanModule id [] store nofun
    split at he
    · next h => rw [h] at hlog; exact hlog e he
    · next h => rw [h] at hlog; exact hlog e he

/-- Scanning logs details only. -/
theorem level_of_mem_log_scanModules {listing : Listing} {searchPaths names : List String}
    {e : Event} (he : e ∈ (scanModules listing searchPaths names).log) : e.level = .debug := by
  unfold scanModules at he
  split at he
  · cases he
  · exact Attempt.forall_log_forEach (fun _ _ _ => level_of_mem_log_scanNamed) e he

end ServiceDocs.Scan
