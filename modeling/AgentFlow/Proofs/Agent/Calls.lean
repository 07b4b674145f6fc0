import AgentFlow.Proofs.Agent.Steps

/-!
# Calls one after another

Calls of a store work on one disk.  Each may meet mishaps of its own, so each call but a
counting one takes the disk through some steps of the protocol, whether it comes to its
end or not.
-/

namespace AgentFlow

open AgentFlow.Text

/-- What a store can be asked for. -/
inductive Request where
  | promote (today : Date) (name : String) (newName : Option String)
  | recover
  | increment (name : String)

/-- A request, and the mishaps that its changes meet. -/
structure Call where
  request : Request
  mishaps : List Mishap

namespace Store

/-- What is done on a request.  The answer is told by the disk. -/
def serve (store : Store) : Request → Work Error Unit
  | .promote today name newName => store.promote today name newName >>= fun _ => pure ()
  | .recover => store.recover >>= fun _ => pure ()
  | .increment name => store.incrementUsage name

def run (store : Store) (disk : Disk) (call : Call) : Except (Halt Error) Unit × Machine :=
  store.serve call.request ⟨disk, call.mishaps, [], []⟩

def after (store : Store) (disk : Disk) (call : Call) : Disk := (store.run disk call).2.disk

/-- The agent of which a call counts a use, if the call comes to its end. -/
def counted? (store : Store) (disk : Disk) (call : Call) : Option String :=
  match call.request, (store.run disk call).1 with
  | .increment name, .ok () => some name
  | _, _ => none

/-- How many calls come to their end that count a use of an agent. -/
def uses (store : Store) (name : String) : Disk → List Call → Nat
  | _, [] => 0
  | disk, call :: calls =>
    (if store.counted? disk call = some name then 1 else 0) +
      store.uses name (store.after disk call) calls

variable {store : Store} {allowed : Disk → Call → Prop} {disk : Disk} {before later : List Call}

end Store

namespace Layout

variable {l : Layout} {may : l.Situation → Prop} {x : l.Situation} {counted : Option String}

/-- What a call does, by the agent of which it counts a use. -/
inductive Serves (may : l.Situation → Prop) (x : l.Situation) : Option String → l.Situation → Prop
  | steps {y : l.Situation} (steps : l.Steps may x y) : Serves may x none y
  | counts {name : String} {y : l.Situation} (counts : l.Counts name x y) :
      Serves may x (some name) y
  | ignored {name : String} (unlisted : ∀ entry, ¬l.Lists x.disk name entry) :
      Serves may x (some name) x

end Layout

end AgentFlow
