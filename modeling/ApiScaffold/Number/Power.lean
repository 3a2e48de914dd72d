/-!
# Powers of two and ten

Binary numbers weigh their places with powers of two, and decimal text with powers of ten. Both are
exact naturals here, for exponents of any size.
-/

namespace ApiScaffold

/-- **A power of two.** -/
def twoTo (n : Nat) : Nat := Nat.pow 2 n

/-- **A power of ten.** -/
def tenTo (n : Nat) : Nat := Nat.pow 10 n

@[simp] theorem twoTo_zero : twoTo 0 = 1 := rfl

@[simp] theorem tenTo_zero : tenTo 0 = 1 := rfl

end ApiScaffold
