import CallWire.Message.Basic

/-!
The slot that a handler fills with its reply. It holds the message placed last, until it is taken.
-/

namespace CallWire

structure ReplySlot where
  message : Option Message
  deriving DecidableEq

namespace ReplySlot

def empty : ReplySlot := ⟨none⟩

def isSet (slot : ReplySlot) : Bool := slot.message.isSome

def set (_ : ReplySlot) (m : Message) : ReplySlot := ⟨some m⟩

def take (slot : ReplySlot) : Option Message × ReplySlot := (slot.message, empty)

def debugText (slot : ReplySlot) : String :=
  match slot.message with
  | some m => s!"Response \x7b message: Some({m.debugText}) \x7d"
  | none => "Response \x7b message: None \x7d"

end ReplySlot
end CallWire
