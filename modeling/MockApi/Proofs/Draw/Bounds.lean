import MockApi.Proofs.Draw.Outcome

/-! Bounded draws lie within their bounds, whatever the source is. -/
namespace MockApi.Draw

/-- A raw draw is a number of as many bits as it takes. -/
theorem raw_lt (width : Width) : (raw width).Always (· < 2 ^ width.bits) := by
  cases width with
  | word => exact (Always.trivially _).map fun word _ => word.toNat_lt
  | double => exact (Always.trivially _).map fun double _ => double.toNat_lt

/-- The high half of a raw draw times `n` is below `n`. -/
theorem scaled_lt {width : Width} {drawn n : Nat} (hdrawn : drawn < 2 ^ width.bits) (hn : 0 < n) :
    drawn * n / 2 ^ width.bits < n := by
  rw [Nat.div_lt_iff_lt_mul (Nat.two_pow_pos _), Nat.mul_comm n]
  exact Nat.mul_lt_mul_of_pos_right hdrawn hn

theorem untilInZone_lt (width : Width) {n : Nat} (hn : 0 < n) (zone tries : Nat) :
    (untilInZone width n zone tries).Always (· < n) := by
  induction tries with
  | zero => exact (raw_lt width).bind fun drawn hdrawn => Always.pure (scaled_lt hdrawn hn)
  | succ tries ih =>
    refine (raw_lt width).bind fun drawn hdrawn => ?_
    dsimp only
    split
    · exact Always.pure (scaled_lt hdrawn hn)
    · exact ih

theorem below_lt (width : Width) {n : Nat} (hn : 0 < n) : (below width n).Always (· < n) :=
  untilInZone_lt width hn _ _

theorem natBetween_mem {low high : Nat} (h : low ≤ high) :
    (natBetween low high).Always fun n => low ≤ n ∧ n ≤ high :=
  (below_lt .double (Nat.succ_pos _)).bind fun offset ho => Always.pure (by omega)

/-- A range of integers of 64 bits is honoured at both ends, also where it holds all of them. -/
theorem between_mem {low high : Int} (h : low ≤ high) (hlow : -2 ^ 63 ≤ low)
    (hhigh : high < 2 ^ 63) : (between low high).Always fun n => low ≤ n ∧ n ≤ high := by
  unfold between
  split
  · refine (Always.trivially _).bind fun drawn _ => Always.pure ?_
    have hle := @Int.le_bmod (drawn.toNat : Int) (2 ^ 64) (by decide)
    have hlt := @Int.bmod_lt (drawn.toNat : Int) (2 ^ 64) (by decide)
    omega
  · refine (below_lt .double ?_).bind fun offset ho => Always.pure ?_
    · omega
    · omega

end MockApi.Draw
