/-!
Sums of row heights and row numbers are kept in words of fixed width. A sum that goes beyond its word carries: where
sums are checked, everything stops there, and where they are not, it goes on with what is left of the sum.
-/

namespace JobBoard.Word

def size32 : Nat := 4294967296

def size64 : Nat := 18446744073709551616

def add32 (a b : Nat) : Nat := (a + b) % size32

def sub32 (a b : Nat) : Nat := (a + (size32 - b % size32)) % size32

/-- Adds a signed amount to a 32-bit word. -/
def shift32 (a : Nat) (d : Int) : Nat := (((a : Int) + d) % (size32 : Int)).toNat

def add64 (a b : Nat) : Nat := (a + b) % size64

def carries32 (a b : Nat) : Bool := decide (size32 ≤ a + b)

def carries64 (a b : Nat) : Bool := decide (size64 ≤ a + b)

/-- Whether a signed amount takes a 32-bit word out of its range. -/
def cuts32 (a : Nat) (d : Int) : Bool := decide ((a : Int) + d < 0 ∨ (size32 : Int) ≤ (a : Int) + d)

theorem add32_of_lt {a b : Nat} (h : a + b < size32) : add32 a b = a + b :=
  Nat.mod_eq_of_lt h

theorem sub32_of_le {a b : Nat} (ha : a < size32) (h : b ≤ a) : sub32 a b = a - b := by
  unfold sub32 size32 at *
  omega

theorem shift32_of_bounds {a : Nat} {d : Int} (h0 : 0 ≤ (a : Int) + d)
    (h1 : (a : Int) + d < size32) : shift32 a d = ((a : Int) + d).toNat := by
  unfold shift32
  rw [Int.emod_eq_of_lt h0 h1]

theorem add64_of_lt {a b : Nat} (h : a + b < size64) : add64 a b = a + b :=
  Nat.mod_eq_of_lt h

theorem lt_add64_one {n : Nat} (h : n + 1 < size64) : n < add64 n 1 := by
  rw [add64_of_lt h]
  exact Nat.lt_succ_self n

theorem add64_one_ne (n : Nat) : add64 n 1 ≠ n := by
  unfold add64 size64
  omega

end JobBoard.Word
