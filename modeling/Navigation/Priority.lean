import Navigation.Word

namespace Navigation

structure Priority where
  bits : UInt64
  deriving DecidableEq, Repr

namespace Priority

def rank (p : Priority) : Nat :=
  if p.bits.toNat < Word.half then Word.half + p.bits.toNat else Word.greatest - p.bits.toNat

instance : Ord Priority := ⟨fun p q => compare p.rank q.rank⟩

def undefined : Priority := ⟨0xfff8000000000000⟩

def ofFloat (x : Float) : Priority := if x.isNaN then undefined else ⟨x.toBits⟩

def toFloat (p : Priority) : Float := Float.ofBits p.bits

end Priority

end Navigation
