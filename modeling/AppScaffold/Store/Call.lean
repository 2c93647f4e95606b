import AppScaffold.Store.Basic

namespace AppScaffold

open Log

inductive StoreCall
  | create (p : NewProject)
  | get (id : Nat)
  | list (r : PageRequest)
  | update (id : Nat) (u : ProjectUpdate)
  | iterate (id : Nat) (prompt : String) (spec : AppSpecification)
  | iterations (id : Nat)
  | delete (id : Nat)

inductive StoreAnswer
  | project (p : StoredProject)
  | page (p : ProjectPage)
  | iterations (is : List Iteration)
  | deleted

/-- What a call answers, and the store and the log entries behind it. -/
structure Reply where
  answer : Except StoreError StoreAnswer
  store : ProjectStore
  log : List Entry := []

namespace ProjectStore

def reply (s : ProjectStore) (answer : Except StoreError StoreAnswer) : Reply := ⟨answer, s, []⟩

def replyChange (s : ProjectStore) : Except StoreError Change → Reply
  | .ok change => ⟨.ok (.project change.project), change.store, change.log⟩
  | .error e => s.reply (.error e)

def apply (s : ProjectStore) : StoreCall → Reply
  | .create p => s.replyChange (s.create p)
  | .get id => s.reply ((s.get id).map .project)
  | .list r => s.reply (.ok (.page (s.list r)))
  | .update id u => s.replyChange (s.update id u)
  | .iterate id prompt spec => s.replyChange (s.iterate id prompt spec)
  | .iterations id => s.reply ((s.iterations id).map .iterations)
  | .delete id =>
    match s.delete id with
    | .ok (store, log) => ⟨.ok .deleted, store, log⟩
    | .error e => s.reply (.error e)

def run (s : ProjectStore) (calls : List StoreCall) : ProjectStore :=
  calls.foldl (fun s call => (s.apply call).store) s

end ProjectStore

end AppScaffold
