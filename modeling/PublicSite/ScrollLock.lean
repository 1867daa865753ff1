/-!
# Scroll lock

While a dialog is open the page behind it must not scroll.  Every open dialog
holds a token; the first one records how the page overflows and hides what
overflows, and the page is as before only when the last token is given back.  A
change of the overflow while the page is locked is what will be restored.

`Page` is what all this amounts to: the overflow that the page asked for, and the
tokens held.
-/

namespace PublicSite

/-- The state of the page body. -/
structure ScrollLock (Token : Type) where
  overflow : String
  saved : Option String
  tokens : List Token
  deriving Repr

namespace ScrollLock

variable {Token : Type} [DecidableEq Token]

/-- The overflow of a locked page. -/
def lockedOverflow : String := "hidden"

/-- A page that is not locked. -/
def new (overflow : String) : ScrollLock Token :=
  ⟨overflow, none, []⟩

/-- Some dialog is open. -/
def isLocked (lock : ScrollLock Token) : Bool :=
  !lock.tokens.isEmpty

/-- How many dialogs are open. -/
def activeCount (lock : ScrollLock Token) : Nat :=
  lock.tokens.length

/-- Lock the page for one more token. -/
def acquire (lock : ScrollLock Token) (token : Token) : ScrollLock Token :=
  let locked :=
    if lock.tokens.isEmpty then
      { lock with overflow := lockedOverflow, saved := some lock.overflow }
    else lock
  { locked with tokens := locked.tokens.insert token }

/-- Lock the page for a dialog only if it is active. -/
def acquireIf (lock : ScrollLock Token) (token : Token) (active : Bool) : ScrollLock Token :=
  if active then lock.acquire token else lock

/-- Give a token back.  A token that is not held changes nothing. -/
def release (lock : ScrollLock Token) (token : Token) : ScrollLock Token :=
  if lock.tokens.contains token then
    let tokens := lock.tokens.erase token
    if tokens.isEmpty then
      { overflow := lock.saved.getD "", saved := none, tokens }
    else { lock with tokens }
  else lock

/-- Change the overflow of the page, now or for when it is unlocked. -/
def setOverflow (lock : ScrollLock Token) (overflow : String) : ScrollLock Token :=
  if lock.tokens.isEmpty then { lock with overflow } else { lock with saved := some overflow }

/-- What dialogs and the page do. -/
inductive Event (Token : Type) where
  | acquire (token : Token)
  | acquireIf (token : Token) (active : Bool)
  | release (token : Token)
  | setOverflow (overflow : String)
  deriving Repr

/-- The state after an event. -/
def step (lock : ScrollLock Token) : Event Token → ScrollLock Token
  | .acquire token => lock.acquire token
  | .acquireIf token active => lock.acquireIf token active
  | .release token => lock.release token
  | .setOverflow overflow => lock.setOverflow overflow

/-- The state after a run of events. -/
def run (lock : ScrollLock Token) (events : List (Event Token)) : ScrollLock Token :=
  events.foldl step lock

/-! ## What the lock amounts to -/

/-- The overflow that the page asked for last, and the tokens held. -/
structure Page (Token : Type) where
  asked : String
  held : List Token
  deriving Repr

namespace Page

/-- The page after an event. -/
def step (page : Page Token) : Event Token → Page Token
  | .acquire token => { page with held := page.held.insert token }
  | .acquireIf token active =>
      if active then { page with held := page.held.insert token } else page
  | .release token => { page with held := page.held.erase token }
  | .setOverflow overflow => { page with asked := overflow }

/-- The overflow that shows. -/
def overflow (page : Page Token) : String :=
  if page.held.isEmpty then page.asked else lockedOverflow

end Page

end ScrollLock

end PublicSite
