import Navigation.Terminal.Sequence

namespace Navigation.Terminal

inductive Style where
  | alarm
  | wrong
  | literal
  deriving DecidableEq, Repr

namespace Style

def rendition (n : Nat) : String := s!"\x1b[{n}m"

def on : Style → String
  | alarm => rendition 1 ++ rendition 31
  | wrong => rendition 33
  | literal => rendition 1

def off : String := rendition 0

def apply (s : Style) (text : String) : String := s.on ++ text ++ off

end Style

theorem Style.toList_off : off.toList = ['\x1b', '[', '0', 'm'] := by decide +kernel

theorem plainFrom_off (s : State) (rest : List Char) :
    plainFrom s (Style.off.toList ++ rest) = plainFrom .initial rest := by
  rw [Style.toList_off]
  obtain ⟨sequence, paused⟩ := s
  cases sequence <;> cases paused <;> rfl

theorem plainFrom_append_off (s : State) (text rest : List Char) :
    plainFrom s (text ++ (Style.off.toList ++ rest)) =
      plainFrom s text ++ plainFrom .initial rest := by
  induction text generalizing s with
  | nil => exact plainFrom_off s rest
  | cons c text ih =>
    rw [List.cons_append, plainFrom, plainFrom, ih]
    split
    · rfl
    · rfl

end Navigation.Terminal
