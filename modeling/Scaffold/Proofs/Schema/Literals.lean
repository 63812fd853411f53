import Scaffold.Proofs.Value.JsonValues
import Scaffold.Schema.Walk

/-!
# Which values a literal accepts

The types of a value and of a literal are compared at the top only, below it
numbers pass for others that are equal to them. So a literal accepts no more
than itself if and only if each scalar inside it is alone in being what it is
(`Schema.literal_accepts_iff`).
-/

namespace Scaffold.Schema

def Accepts (s : Schema) (v : Value) : Prop := ∃ w, s.check v = .ok (.ok w)

theorem accepts_literal_iff {e v : Value} : (literal e).Accepts v ↔ v.sameType e ∧ v.equal e := by
  rw [← Bool.and_eq_true]
  unfold Accepts check
  rw [walk, walkLiteral]
  by_cases hequal : (v.sameType e && v.equal e) = true
  · rw [if_pos hequal]
    exact iff_of_true ⟨e, rfl⟩ hequal
  · rw [if_neg hequal]
    refine iff_of_false ?_ hequal
    rintro ⟨w, hw⟩
    cases hjson : e.json <;> simp [hjson, reject] at hw

/-- A JSON value as a literal accepts values of its type that are equal to it with numbers of any
type in them, and only identical ones just if no scalar inside it is equal to one of another type. -/
theorem literal_accepts_iff {e : Value} (he : e.IsJson) :
    (∀ v : Value, v.IsData → ((literal e).Accepts v ↔ v.sameType e ∧ e.Alike v)) ∧
    ((∀ v : Value, v.IsData → ((literal e).Accepts v ↔ e.Identical v)) ↔ ∀ x ∈ e.innerScalars, x.IsLone) := by
  have haccepts (v : Value) (hv : v.IsData) : (literal e).Accepts v ↔ v.sameType e ∧ e.Alike v := by
    rw [accepts_literal_iff, Value.equal_iff_alike he hv]
  refine ⟨haccepts, fun h x hx w halike => ?_, fun hlone v hv => ?_⟩
  · by_contra hapart
    obtain ⟨v, hv, halikeV, hapartV, htype⟩ :=
      Value.exists_alike_apart he (Value.scalars_of_innerScalars hx) halike hapart
    exact hapartV ((h v hv).mp ((haccepts v hv).mpr ⟨htype hx, halikeV⟩))
  · rw [haccepts v hv]
    constructor
    · exact fun ⟨htype, halike⟩ => Value.identical_of_alike he htype halike hlone
    · exact fun hsame => ⟨Value.sameType_of_identical he hsame, Value.alike_of_identical he hsame⟩

/-- A literal with a half, a text and null inside it accepts nothing else. -/
theorem literal_accepts_iff_half :
    let half : Binary64 := .nearest false Binary64.unit 2
    let e : Value := .map [(.text "rates", .list [.real half, .null, .text "0.5"])]
    e.IsJson ∧ ∀ v : Value, v.IsData → ((literal e).Accepts v ↔ e.Identical v) := by
  intro half e
  have he : e.IsJson := by
    refine .map ⟨by simp [Value.isText], List.pairwise_singleton _ _⟩ ?_
    simp only [List.forall_mem_singleton]
    refine .list (List.forall_mem_cons.mpr ⟨.real (by decide +kernel), ?_⟩)
    exact List.forall_mem_cons.mpr ⟨.null, List.forall_mem_singleton.mpr (.text _)⟩
  have hhalf (n : Int) : ¬ half.equalsInt n := by
    intro hn
    have hunits : Binary64.signedUnits false (Binary64.nearestRank Binary64.unit 2) = n * (Binary64.unit : Int) := by
      simp only [half, Binary64.nearest, Binary64.equalsInt, Bool.and_eq_true, beq_iff_eq] at hn
      exact hn.2
    have htwice : 2 * Binary64.signedUnits false (Binary64.nearestRank Binary64.unit 2) = Binary64.unit := by
      decide +kernel
    have hpos : (Binary64.unit : Int) ≠ 0 := by decide +kernel
    -- an integer equal to a half would have one as its double
    have hone : 2 * n = 1 := by
      refine Int.eq_of_mul_eq_mul_right hpos ?_
      rw [Int.mul_assoc, ← hunits, htwice, Int.one_mul]
    omega
  refine ⟨he, (literal_accepts_iff he).2.mpr ?_⟩
  simp only [e, Value.innerScalars, Value.scalarsOfEntries, Value.scalars, Value.scalarsOfItems]
  simpa [Value.isLone_iff] using hhalf

/-- A truth value in a list passes for the number it is equal to. -/
theorem literal_accepts_truth_in_list :
    let e : Value := .list [.int 1]
    let v : Value := .list [.bool true]
    e.IsJson ∧ v.IsData ∧ (literal e).check v = .ok (.ok e) ∧ ¬ e.Identical v := by
  refine ⟨.list (List.forall_mem_singleton.mpr (.int 1)), ⟨trivial, trivial⟩, rfl, ?_⟩
  rintro ⟨_, hv, _, _, hys, hsame, -⟩
  cases hv
  cases hys
  exact hsame

end Scaffold.Schema
