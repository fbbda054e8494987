/-! Control sequences in texts for terminals. -/

namespace Navigation.Terminal

inductive Sequence where
  | none
  | escape
  | extended
  | control
  | device
  | deviceParameters
  | deviceIntermediates
  | string
  | command
  deriving DecidableEq, Repr

def isIntermediate (c : Char) : Bool := ' ' ≤ c && c ≤ '/'

def isParameter (c : Char) : Bool := '0' ≤ c && c ≤ '?'

def isFinal (c : Char) : Bool := '@' ≤ c && c ≤ '~'

def isSpacing (c : Char) : Bool := c = '\t' || c = '\n' || c = '\x0c' || c = '\r'

def isShown (c : Char) : Bool := isSpacing c || ' ' ≤ c && c ≠ '\x7f'

def terminator : UInt8 := 0x9c

def holdsTerminator (c : Char) : Bool := (String.utf8EncodeChar c).contains terminator

namespace Sequence

def opened (c : Char) : Sequence :=
  match c with
  | '[' => control
  | ']' => command
  | 'P' => device
  | 'X' => string
  | '^' => string
  | '_' => string
  | c => if isParameter c || isFinal c then none else escape

def next (s : Sequence) (c : Char) : Sequence :=
  if c = '\x1b' then escape
  else if c = '\x18' || c = '\x1a' then none
  else match s with
    | none => none
    | escape => if isIntermediate c then extended else opened c
    | extended => if isParameter c || isFinal c then none else extended
    | control => if isFinal c then none else control
    | device =>
      if isIntermediate c then deviceIntermediates
      else if isParameter c then deviceParameters
      else if isFinal c then string else device
    | deviceParameters =>
      if isIntermediate c then deviceIntermediates
      else if '<' ≤ c && c ≤ '?' || isFinal c then string else deviceParameters
    | deviceIntermediates =>
      if isParameter c || isFinal c then string else deviceIntermediates
    | string => if holdsTerminator c then none else string
    | command => if c = '\x07' then none else command

def showsSpacing : Sequence → Bool
  | none => true
  | escape => true
  | extended => true
  | control => true
  | _ => false

end Sequence

structure State where
  sequence : Sequence
  paused : Bool
  deriving DecidableEq, Repr

namespace State

def initial : State := ⟨.none, false⟩

def shows (s : State) (c : Char) : Bool :=
  if s.paused || s.sequence = .none then isShown c else isSpacing c && s.sequence.showsSpacing

def next (s : State) (c : Char) : State :=
  if s.shows c then ⟨if c ≤ '\x7f' then s.sequence else .none, true⟩
  else ⟨s.sequence.next c, false⟩

theorem isShown_of_shows {s : State} {c : Char} (h : s.shows c = true) : isShown c = true := by
  unfold shows at h
  split at h
  · exact h
  · rw [isShown, (Bool.and_eq_true_iff.1 h).1, Bool.true_or]

theorem sequence_next_of_none {s : State} {c : Char} (hs : s.sequence = .none)
    (h : s.shows c = true) : (s.next c).sequence = .none := by
  rw [next, if_pos h, hs]
  exact ite_self _

end State

def plainFrom (s : State) : List Char → List Char
  | [] => []
  | c :: text =>
    if s.shows c then c :: plainFrom (s.next c) text else plainFrom (s.next c) text

def plain (text : String) : String := String.ofList (plainFrom .initial text.toList)

theorem isShown_of_mem_plainFrom {s : State} {text : List Char} {c : Char}
    (h : c ∈ plainFrom s text) : isShown c = true := by
  induction text generalizing s with
  | nil => exact nomatch h
  | cons d text ih =>
    rw [plainFrom] at h
    split at h
    · rename_i hd
      rcases List.mem_cons.1 h with rfl | h
      · exact State.isShown_of_shows hd
      · exact ih h
    · exact ih h

theorem plainFrom_eq_self {s : State} (hs : s.sequence = .none) {text : List Char}
    (h : ∀ c ∈ text, isShown c = true) : plainFrom s text = text := by
  induction text generalizing s with
  | nil => rfl
  | cons c text ih =>
    have hc : s.shows c = true := by
      rw [State.shows, if_pos (by rw [hs, Bool.or_eq_true]; exact .inr rfl)]
      exact h c List.mem_cons_self
    rw [plainFrom, if_pos hc, ih (State.sequence_next_of_none hs hc) fun d hd =>
      h d (List.mem_cons_of_mem c hd)]

end Navigation.Terminal
