import ContentQuery.CommandLine.Commands
import ContentQuery.Proofs.Sessions
import ContentQuery.Proofs.Transactions

/-!
# ContentQuery.Proofs.LoadCommand

What the command that loads a snapshot leaves in a store that is there, whatever else it writes and
however it ends: the rows that there were, or what loading the snapshot in a transaction comes to.
-/

namespace ContentQuery

open CommandLine

/-! ## What a session leaves -/

namespace CommandLine.Session

variable {α β : Type} {tree : FileTree}

/-- How a session ends, and the state that it leaves. -/
def outcome (session : Session α) (machine : Machine) : Except Ending α × Machine :=
  session.run machine

/-- To look at the machine and go on is to go on with what is there. -/
theorem outcome_get_bind {next : Machine → Session β} {machine : Machine} :
    (get >>= next).outcome machine = (next machine).outcome machine := rfl

/-- Whether a session that starts with a tree of files ends, with the tree that it leaves, as it
should. -/
def Meets (tree : FileTree) (session : Session α) (post : Except Ending α → FileTree → Prop) :
    Prop :=
  ∀ machine, machine.tree = tree →
    post (session.outcome machine).1 (session.outcome machine).2.tree

variable {post : Except Ending α → FileTree → Prop} {goal : Except Ending β → FileTree → Prop}

/-- A session that only returns meets what holds of its result and of the tree that there is. -/
theorem meets_pure {a : α} (h : post (.ok a) tree) : Meets tree (pure a) post := by
  rintro machine rfl
  exact h

/-- A session that ends at once meets what holds of its ending and of the tree that there is. -/
theorem meets_throw {ending : Ending} (h : post (.error ending) tree) :
    Meets tree (throw ending) post := by
  rintro machine rfl
  exact h

/-- One session after the other: what holds after the first one either carries over, if it ends the
whole, or is what the second one starts from. -/
theorem Meets.bind {first : Session α} {next : α → Session β} (hfirst : Meets tree first post)
    (herror : ∀ ending later, post (.error ending) later → goal (.error ending) later)
    (hnext : ∀ a later, post (.ok a) later → Meets later (next a) goal) :
    Meets tree (first >>= next) goal := by
  intro machine htree
  have hpost := hfirst machine htree
  have hstep : (first >>= next).outcome machine =
      ExceptT.bindCont next (first.outcome machine).1 (first.outcome machine).2 := rfl
  rw [hstep]
  revert hpost
  rcases first.outcome machine with ⟨ending | a, after⟩
  · exact herror ending after.tree
  · exact fun hpost => hnext a after.tree hpost after rfl

/-- A session that looks at the machine finds the tree there. -/
theorem meets_get_bind {next : Machine → Session β}
    (h : ∀ machine, machine.tree = tree → Meets tree (next machine) goal) :
    Meets tree (get >>= next) goal := fun machine htree => h machine htree machine htree

/-- A session that puts another tree in place goes on from that tree. -/
theorem meets_setTree_bind {later : FileTree} {next : Unit → Session β}
    (h : Meets later (next ()) goal) : Meets tree (setTree later >>= next) goal := fun _ _ =>
  h _ rfl

/-! ### Sessions that leave the tree as it is -/

/-- Whether a session leaves the tree of files as it is, however it ends. -/
def LeavesTree (session : Session α) : Prop :=
  ∀ tree, Meets tree session fun _ later => later = tree

theorem leavesTree_pure (a : α) : LeavesTree (pure a : Session α) := fun _ => meets_pure rfl

theorem leavesTree_throw (ending : Ending) : LeavesTree (throw ending : Session α) := fun _ =>
  meets_throw rfl

/-- Looking at the machine leaves the tree as it is. -/
theorem leavesTree_get : LeavesTree (get : Session Machine) := by
  rintro _ machine rfl
  rfl

/-- After a part that leaves the tree as it is, a session goes on from the tree that there is, or
has ended there. -/
theorem LeavesTree.meets_bind {first : Session α} {next : α → Session β} (h : LeavesTree first)
    (herror : ∀ ending, goal (.error ending) tree) (hnext : ∀ a, Meets tree (next a) goal) :
    Meets tree (first >>= next) goal := by
  refine Meets.bind (h tree) ?_ ?_
  · rintro ending later rfl
    exact herror ending
  · rintro a later rfl
    exact hnext a

/-- A session that leaves the tree as it is meets whatever holds of that tree. -/
theorem LeavesTree.meets {session : Session α} (h : LeavesTree session)
    (hpost : ∀ result, post result tree) : Meets tree session post := by
  intro machine htree
  rw [h tree machine htree]
  exact hpost _

/-- Something that is said or not, and leaves the tree as it is, does not change what follows. -/
theorem LeavesTree.meets_ite {c : Prop} [Decidable c] {first : Session Unit} {next : Session β}
    (h : LeavesTree first) (herror : ∀ ending, goal (.error ending) tree)
    (hnext : Meets tree next goal) :
    Meets tree (if c then first >>= fun _ => next else next) goal := by
  split
  · exact h.meets_bind herror fun _ => hnext
  · exact hnext

/-- Two sessions that leave the tree as it is leave it so one after the other. -/
theorem LeavesTree.bind {first : Session α} {next : α → Session β} (hfirst : LeavesTree first)
    (hnext : ∀ a, LeavesTree (next a)) : LeavesTree (first >>= next) := fun tree =>
  hfirst.meets_bind (fun _ => rfl) fun a => hnext a tree

/-- Output leaves the tree as it is, also if it cannot be encoded. -/
theorem leavesTree_write (s : Text) : LeavesTree (write s) := by
  unfold write
  split
  · exact leavesTree_throw _
  · rintro _ machine rfl
    rfl

theorem leavesTree_writeError (s : Text) : LeavesTree (writeError s) := by
  rintro _ machine rfl
  rfl

/-- Reporting a fault leaves the tree as it is. -/
theorem leavesTree_orFault {ε : Type} (cause : ε → Fault) (result : Except ε α) :
    LeavesTree (orFault cause result) := by
  cases result with
  | ok a => exact leavesTree_pure a
  | error e => exact leavesTree_throw _

theorem leavesTree_laidOut (message : Text) : LeavesTree (laidOut message) :=
  (leavesTree_orFault _ _).bind fun _ => leavesTree_get.bind fun _ => leavesTree_pure _

theorem leavesTree_say (message : Text) : LeavesTree (say message) :=
  (leavesTree_laidOut message).bind fun _ => leavesTree_write _

theorem leavesTree_sayError (message : Text) : LeavesTree (sayError message) :=
  (leavesTree_laidOut message).bind fun _ => leavesTree_writeError _

/-- A log line leaves the tree as it is. -/
theorem leavesTree_log (level : Level) (logger : Logger) (message : Text) :
    LeavesTree (log level logger message) :=
  leavesTree_get.bind fun _ => leavesTree_writeError _

/-- A step for each of some items leaves the tree as it is if each step does. -/
theorem leavesTree_forIn {items : List α} {step : α → Session PUnit}
    (h : ∀ item, LeavesTree (step item)) :
    LeavesTree (forIn items PUnit.unit fun item _ => do
      step item
      pure (ForInStep.yield PUnit.unit)) := by
  induction items with
  | nil => exact leavesTree_pure _
  | cons item items ih =>
      rw [List.forIn_cons]
      exact ((h item).bind fun _ => leavesTree_pure _).bind fun
        | .done _ => leavesTree_pure _
        | .yield _ => ih

end CommandLine.Session

/-! ## Loading -/

namespace CommandLine.Commands

open Session FileTree

variable {context : Context} {place : Location} {tree : FileTree} {store : OpenStore}

/-- To report that the store fails is to end the session with the tree as it is. -/
theorem meets_failStore {α : Type} {message : Text} {goal : Except Ending α → FileTree → Prop}
    (h : ∀ ending, goal (.error ending) tree) : Meets tree (failStore message) goal :=
  (leavesTree_sayError _).meets_bind h fun _ => meets_throw (h _)

/-- A store that is there is opened as in any session. -/
theorem meets_openForLoad [Engine] (h : tree.Opens place store) :
    Meets tree (openForLoad context place) fun result later =>
      result = .ok store ∧ later = store.tree := by
  unfold openForLoad
  apply meets_get_bind
  rintro machine rfl
  simp only [h.openStore_eq, Bool.false_and]
  exact meets_setTree_bind (meets_pure ⟨rfl, rfl⟩)

/-- How loading a snapshot into a store should end: not well, and with the rows that there were, or
with those that loading it in a transaction comes to. -/
def EndsLoad [Limits] [Engine] (store : OpenStore) (place working : Location) (path : Text)
    (result : Except Ending Unit) (later : FileTree) : Prop :=
  (result ≠ .ok () ∧ later.rows? place = some store.database) ∨
    ∃ report rows, (Transaction.load store.tree working path).carryOut store.database =
      (.ok report, rows) ∧ later.rows? place = some rows

/-- A load leaves the rows of the store as they are, and does not end well, or it replaces them by
those of the snapshot. Each step before the commit may end the session, a report that cannot be
written too, and leaves a tree with the rows that there were. -/
theorem endsLoad_load [Limits] [Engine] [Engine.Lawful] {machine : Machine} {path : FilePath}
    (h : machine.tree.Opens (context.settings.store.locate machine.around) store) :
    let ended := (load context path).outcome machine
    EndsLoad store (context.settings.store.locate machine.around) machine.around.working path.text
      ended.1 ended.2.tree := by
  unfold load
  simp only [outcome_get_bind]
  refine (?_ : Meets machine.tree _ (EndsLoad store _ _ path.text)) machine rfl
  have hrows := rows?_eq_some_iff.mpr ⟨store, h, rfl⟩
  refine (leavesTree_say _).meets_ite (fun _ => .inl ⟨nofun, hrows⟩) ?_
  refine (meets_openForLoad h).bind ?_ ?_
  · rintro ending later ⟨hopened, -⟩
    contradiction
  rintro opened later ⟨hopened, rfl⟩
  obtain rfl := Except.ok.inj hopened
  have hfails (ending : Ending) : EndsLoad opened
      (context.settings.store.locate machine.around) machine.around.working path.text
      (.error ending) opened.tree := .inl ⟨nofun, h.rows?_tree⟩
  refine (leavesTree_forIn fun id => leavesTree_log _ _ _).meets_bind hfails fun _ => ?_
  split
  · exact meets_failStore hfails
  · exact meets_throw (hfails _)
  · exact meets_failStore hfails
  · exact meets_throw (hfails _)
  · next rows hresult =>
      obtain ⟨report, hload⟩ := Transaction.exists_carryOut_load_iff.mpr hresult
      refine (leavesTree_log _ _ _).meets_ite hfails (meets_setTree_bind ?_)
      exact (leavesTree_say _).meets fun _ => .inr ⟨report, rows, hload, h.rows?_commit rows⟩

end CommandLine.Commands

end ContentQuery
