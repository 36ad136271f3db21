/-!
# Prompts

A prompt reads keys until one of them answers it. A list has a cursor, which
moves up and down and wraps at the ends; a question takes yes or no. Both can
be left without an answer.
-/

namespace DeviceLink

/-- A key that somebody types. -/
inductive Key
  | up
  | down
  | enter
  | escape
  | letter (c : Char)
  deriving DecidableEq, Inhabited

namespace Prompt

/-- What a key does to a list. -/
inductive ListAction
  | next
  | previous
  | choose
  | leave
  | nothing
  deriving DecidableEq, Inhabited

/-- The action of a key in a list. -/
def listAction : Key → ListAction
  | .down => .next
  | .letter 'j' => .next
  | .letter '\t' => .next
  | .up => .previous
  | .letter 'k' => .previous
  | .enter => .choose
  | .letter ' ' => .choose
  | .escape => .leave
  | .letter 'q' => .leave
  | .letter _ => .nothing

/-- Choose one of `count` items, with the cursor at an item. Left are the keys not read yet. -/
def choose (count : Nat) : Nat → List Key → Option Nat × List Key
  | _, [] => (none, [])
  | cursor, key :: keys =>
      match listAction key with
      | .next => choose count ((cursor + 1) % count) keys
      | .previous => choose count ((cursor + count - 1) % count) keys
      | .choose => (some cursor, keys)
      | .leave => (none, keys)
      | .nothing => choose count cursor keys

/-- Answer a yes-or-no question; leaving it counts as no. -/
def confirm (default : Bool) : List Key → Bool × List Key
  | [] => (false, [])
  | .enter :: keys => (default, keys)
  | .escape :: keys => (false, keys)
  | .letter c :: keys =>
      if c = 'y' || c = 'Y' then (true, keys)
      else if c = 'n' || c = 'N' || c = 'q' then (false, keys)
      else confirm default keys
  | _ :: keys => confirm default keys

end Prompt

end DeviceLink
