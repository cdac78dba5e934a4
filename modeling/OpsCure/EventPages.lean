/-
Pages of events (`kernel/events.py`, `paginate_event_envelopes`): from a cursor on, every page
resumes where the one before stopped, so that a reader gets each matching event once.  Without a
cursor a page is the end of the events, and what it says is more is what came before.
-/
import OpsCure.EventStream
import OpsCure.Library.PageWalk

namespace OpsCure.EventStream

open Keyset PageWalk

def eventsAfter (items : List EventEnvelope) (kinds : List String) (after : String) :
    List EventEnvelope :=
  (items.filter (ofKinds kinds)).filter fun item => after < item.cursor

/-- The events are in the strict order of their cursors. -/
def Ascending (items : List EventEnvelope) : Prop :=
  items.Pairwise fun left right => left.cursor < right.cursor

section
variable {items : List EventEnvelope} {kinds : List String} {limit : Nat} {after : String}

theorem Ascending.eventsAfter (hascending : Ascending items) (kinds : List String)
    (after : String) :
    Ascending (eventsAfter items kinds after) :=
  (hascending.filter _).filter _

end

end OpsCure.EventStream
