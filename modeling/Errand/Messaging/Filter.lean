import Errand.Messaging.Basic
import Errand.Text.Lower
import Errand.Text.Search

/-!
# Selecting messages

A filter names what the messages have in common that somebody looks for; what it does not name may
be anything. Contents are searched without regard to case: both sides are put into lower case. A
page is a stretch of a list.
-/

set_option autoImplicit false

namespace Errand.Messaging

/-- Whether one text occurs in another, without regard to case. -/
def mentions (text part : String) : Bool :=
  Text.contains (Text.lower part.toList) (Text.lower text.toList)

/-- What messages have in common. -/
structure Filter where
  /-- The conversation. -/
  conversation : Option String := none
  /-- The sender. -/
  sender : Option String := none
  /-- The receiver. -/
  receiver : Option String := none
  /-- The sender or the receiver. -/
  involving : Option String := none
  /-- Who is not the receiver. -/
  excludeReceiver : Option String := none
  /-- What the content mentions. -/
  contains : Option String := none
  /-- The earliest instant of sending. -/
  since : Option Time.Instant := none
deriving DecidableEq, Repr

/-- Whether a filter lets a message pass. -/
def Filter.accepts (filter : Filter) (message : Message) : Bool :=
  filter.conversation.all (· == message.conversation) &&
  filter.sender.all (· == message.sender) &&
  filter.receiver.all (· == message.receiver) &&
  filter.involving.all (fun user => message.sender == user || message.receiver == user) &&
  filter.excludeReceiver.all (· != message.receiver) &&
  filter.contains.all (mentions message.content) &&
  filter.since.all (·.le message.createdAt)

/-- A stretch of a list. -/
structure Page where
  /-- How many items are passed over. -/
  offset : Nat := 0
  /-- How many items are taken at most; all of them if there is no limit. -/
  limit : Option Nat := none
deriving DecidableEq, Repr

/-- The stretch of a list that a page holds. -/
def Page.of {α : Type} (page : Page) (items : List α) : List α :=
  match page.limit with
  | none => items.drop page.offset
  | some limit => (items.drop page.offset).take limit

end Errand.Messaging
