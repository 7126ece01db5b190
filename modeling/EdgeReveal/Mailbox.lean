/-!
# Mailboxes

An unbounded first-in first-out queue between any number of senders and one
receiver. Sending fails once the receiver is gone, and receiving ends once the
queue is empty and no sender is left.
-/
namespace EdgeReveal

structure Mailbox (α : Type) where
  queue : List α := []
  senders : Nat := 1
  receiving : Bool := true
  deriving DecidableEq, Repr, Inhabited

/-- What a receiver finds. -/
inductive Reception (α : Type) where
  | message (value : α)
  | empty
  | closed
  deriving DecidableEq, Repr, Inhabited

namespace Mailbox

variable {α : Type}

/-- A message that nobody can receive comes back to its sender. -/
def send (box : Mailbox α) (value : α) : Except α (Mailbox α) :=
  if box.receiving then .ok { box with queue := box.queue ++ [value] } else .error value

/-- Sends and forgets a message that comes back. -/
def post (box : Mailbox α) (value : α) : Mailbox α :=
  match box.send value with
  | .ok sent => sent
  | .error _ => box

def receive (box : Mailbox α) : Reception α × Mailbox α :=
  match box.queue with
  | value :: rest => (.message value, { box with queue := rest })
  | [] => (if box.senders = 0 then .closed else .empty, box)

/-- Takes everything queued at once. -/
def drain (box : Mailbox α) : List α × Mailbox α := (box.queue, { box with queue := [] })

def addSender (box : Mailbox α) : Mailbox α := { box with senders := box.senders + 1 }

def dropSender (box : Mailbox α) : Mailbox α := { box with senders := box.senders - 1 }

/-- Without a receiver the queued messages are lost. -/
def dropReceiver (box : Mailbox α) : Mailbox α := { box with receiving := false, queue := [] }

theorem queue_post (box : Mailbox α) (value : α) :
    (box.post value).queue = if box.receiving then box.queue ++ [value] else box.queue := by
  cases kept : box.receiving <;> simp [post, send, kept]

@[simp] theorem receiving_post (box : Mailbox α) (value : α) :
    (box.post value).receiving = box.receiving := by
  cases kept : box.receiving <;> simp [post, send, kept]

@[simp] theorem senders_post (box : Mailbox α) (value : α) :
    (box.post value).senders = box.senders := by
  cases kept : box.receiving <;> simp [post, send, kept]

theorem receive_of_cons {box : Mailbox α} {value : α} {rest : List α}
    (queued : box.queue = value :: rest) :
    box.receive = (.message value, { box with queue := rest }) := by
  simp only [receive, queued]

theorem receive_of_nil {box : Mailbox α} (empty : box.queue = []) :
    box.receive = (if box.senders = 0 then .closed else .empty, box) := by
  simp only [receive, empty]

end Mailbox

end EdgeReveal
