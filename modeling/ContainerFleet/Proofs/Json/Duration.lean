import ContainerFleet.Json.Record
import ContainerFleet.Proofs.Duration

/-!
Spans of time as values of a configuration: a text, or a number of seconds. Main statement:
`duration?_reads_back`.
-/

namespace ContainerFleet

open ContainerFleet.Text

namespace Duration

/-- A span of whole seconds that 64 bits hold. -/
def ofWord (secs : UInt64) : Duration :=
  ⟨secs.toNat, 0, secs.toNat_lt, zero.nanos_lt⟩

theorem ofSecs?_toNat (secs : UInt64) : ofSecs? secs.toNat = some (ofWord secs) :=
  ofParts?_self (ofWord secs)

theorem ofText?_seconds (secs : UInt64) : ofText? (toString secs ++ "s") = some (ofWord secs) := by
  let part : Part := (secs.toNat, "s", false)
  have hunit : (TimeUnit.ofName? "s".toList).map TimeUnit.length = some (.secs 1) := by decide +kernel
  obtain ⟨hsecs, hnanos⟩ : part.secs = secs.toNat * 1 ∧ part.nanos = 0 :=
    Part.secs_of_length hunit
  have hnamed : part.IsNamed := isNamed_of_mem (show ("s", false) ∈ _ by decide)
  have hwritten : toString secs ++ "s" = String.ofList (writePart part) := by
    change toString secs.toNat ++ "s" = String.ofList (Nat.toDigits 10 secs.toNat ++ ['s'] ++ [])
    rw [Nat.toString_eq_ofList_toDigits, List.append_nil, String.ofList_append]
  rw [hwritten, ofText?_writePart hnamed (by rw [hsecs, Nat.mul_one]; exact secs.toNat_lt)
    (by rw [hnanos]; exact zero.nanos_lt)]
  exact congrArg some (ext_parts (hsecs.trans (Nat.mul_one _)) hnanos)

end Duration

namespace Json

/-- A span reads back from its own text, whatever blanks are around it, and a number reads as this many
seconds, with the unit behind it or without. -/
theorem duration?_reads_back (d : Duration) (secs : UInt64) {before after : List Char}
    (hbefore : Blank before) (hafter : Blank after) :
    duration? (.str (String.ofList (before ++ (d.toText.toList ++ after)))) = some d ∧
      duration? (.int secs.toNat) = some (.ofWord secs) ∧
      duration? (.str (toString secs ++ "s")) = some (.ofWord secs) := by
  refine ⟨?_, Duration.ofSecs?_toNat secs, Duration.ofText?_seconds secs⟩
  exact (Duration.ofText?_append hbefore hafter d.toText).trans (Duration.ofText?_toText d)

/-- The longest span of all, after an ideographic space and before the end of a line. -/
theorem duration?_reads_back_longest :
    let d : Duration := ⟨18446744073709551615, 999999999, by decide, by decide⟩
    Blank [Char.ofNat 0x3000] ∧ Blank ['\n'] ∧
      duration? (.str (String.ofList ([Char.ofNat 0x3000] ++ (d.toText.toList ++ ['\n'])))) = some d ∧
      duration? (.int 18446744073709551615) = some d.wholeSecs ∧
      duration? (.str "18446744073709551615s") = some d.wholeSecs :=
  ⟨by decide, by decide,
    duration?_reads_back ⟨18446744073709551615, 999999999, by decide, by decide⟩
      18446744073709551615 (by decide) (by decide)⟩

end Json

end ContainerFleet
