/-!
# Sets of code points

A set of characters is written as the list of its code point ranges, both ends included, in
ascending order; a strided set keeps one code point in every `stride` of a range.
-/
namespace Sift.Text.CodeSet

/-- Membership in a list of ranges. -/
def contains (ranges : List (Nat × Nat)) (c : Char) : Bool :=
  ranges.any fun (first, last) => first ≤ c.toNat && c.toNat ≤ last

/-- Membership in a list of strided ranges. -/
def containsStrided (ranges : List (Nat × Nat × Nat)) (c : Char) : Bool :=
  ranges.any fun (first, last, stride) =>
    first ≤ c.toNat && c.toNat ≤ last && (c.toNat - first) % stride == 0

@[simp] theorem contains_nil (c : Char) : contains [] c = false := rfl

end Sift.Text.CodeSet
