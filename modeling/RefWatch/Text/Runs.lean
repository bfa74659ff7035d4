namespace RefWatch.Text

-- Inclusive runs of code points, in ascending order.
abbrev Runs := List (Nat × Nat)

def Runs.has (rs : Runs) (c : Char) : Bool :=
  rs.any fun r => r.1 ≤ c.toNat && c.toNat ≤ r.2

theorem Runs.has_iff {rs : Runs} {c : Char} :
    rs.has c ↔ ∃ r ∈ rs, r.1 ≤ c.toNat ∧ c.toNat ≤ r.2 := by
  simp [Runs.has]

end RefWatch.Text
