import JobDispatch.Election.Elector
import JobDispatch.Proofs.Upkeep.Rows
import JobDispatch.Zone.Table

/-!
Configured durations, and the spans that instances go by.

A duration that exceeds the longest span is replaced: for a lease by 365000 days, and for the margin
of upkeep by five minutes. So a longer duration may stand for a shorter span.

* `Duration.spanOr`: the span of a duration, given what replaces one that is too long.
* `Duration.CutShort`: of two durations the longer one is replaced, by less than the shorter one.
* `Upkeep.KeepsWithin`: entries that are due within a limit are not moved.
* `Duration.ordered_unless_cut_short`: the spans of leases and of margins are ordered as their
  durations, exactly unless the longer one is cut short. Entries within a margin stay where they
  are, exactly as far as the margin is not replaced.
-/

namespace JobDispatch

namespace Duration

/-- The duration does not exceed the longest span. -/
def Fits (d : Duration) : Prop := (d.nanos : Int) ≤ Span.greatest

instance (d : Duration) : Decidable d.Fits := by unfold Fits; infer_instance

/-- The span of a duration, or another one for a duration that is too long. -/
def spanOr (replacement : Span) (d : Duration) : Span := d.toSpan?.getD replacement

/-- Only the longer of two durations is too long, and it is replaced by less than the shorter
one. -/
def CutShort (replacement : Span) (shorter longer : Duration) : Prop :=
  shorter.Fits ∧ ¬ longer.Fits ∧ replacement < shorter.nanos

instance (replacement : Span) (shorter longer : Duration) :
    Decidable (CutShort replacement shorter longer) := by unfold CutShort; infer_instance

section

variable {replacement : Span} {d d' : Duration}

lemma Fits.mono (h : d'.Fits) (hle : d ≤ d') : d.Fits :=
  Int.le_trans (Int.ofNat_le.mpr hle) h

lemma Fits.spanOr_eq (h : d.Fits) : d.spanOr replacement = d.nanos := by
  have hspan : d.toSpan? = some (d.nanos : Int) := if_pos h
  rw [spanOr, hspan, Option.getD_some]

lemma spanOr_of_not_fits (h : ¬ d.Fits) : d.spanOr replacement = replacement := by
  have hspan : d.toSpan? = none := if_neg h
  rw [spanOr, hspan, Option.getD_none]

/-- Spans are ordered as their durations, unless the longer duration is cut short. -/
lemma spanOr_le_spanOr_iff (hle : d ≤ d') :
    d.spanOr replacement ≤ d'.spanOr replacement ↔ ¬ CutShort replacement d d' := by
  by_cases hlonger : d'.Fits
  · rw [(hlonger.mono hle).spanOr_eq, hlonger.spanOr_eq]
    exact iff_of_true (Int.ofNat_le.mpr hle) fun hcut => hcut.2.1 hlonger
  · rw [spanOr_of_not_fits hlonger]
    by_cases hshorter : d.Fits
    · rw [hshorter.spanOr_eq, ← Int.not_lt]
      exact not_congr ⟨fun hlt => ⟨hshorter, hlonger, hlt⟩, fun hcut => hcut.2.2⟩
    · rw [spanOr_of_not_fits hshorter]
      exact iff_of_true (Int.le_refl _) fun hcut => hshorter hcut.1

end

end Duration

/-! ### Margins -/

namespace Upkeep

/-- No entry is moved that is due within the limit, or at once. -/
def KeepsWithin (u : Upkeep) (limit : Span) : Prop :=
  ∀ (e : Entry) (next now : Instant),
    (∀ current, e.notBefore = some current → current.since now ≤ limit) →
      Plan.make (some e) next now u.margin = .keep

/-- Entries stay within the margin and no further: one that is due at the limit would be moved just
behind it. -/
lemma keepsWithin_iff (u : Upkeep) (limit : Span) : u.KeepsWithin limit ↔ limit ≤ u.margin := by
  constructor
  · intro hkeeps
    obtain ⟨due, hdue⟩ : ∃ due, due = Instant.ofNanos limit := ⟨_, rfl⟩
    have hsince : due.since (.ofNanos 0) = limit := by
      rw [hdue, Instant.since, Instant.toNanos_ofNanos, Instant.toNanos_ofNanos, Int.sub_zero]
    have hnext : due ≠ .ofNanos (limit + 1) := by
      intro heq
      have hnanos := congrArg Instant.toNanos (hdue.symm.trans heq)
      rw [Instant.toNanos_ofNanos, Instant.toNanos_ofNanos] at hnanos
      omega
    have hkeep := hkeeps ⟨.drawn 0, "", some due, .null, none, none, 0⟩ (.ofNanos (limit + 1))
      (.ofNanos 0) fun current hat => by
        obtain rfl := Option.some.inj hat
        exact Int.le_of_eq hsince
    have hstays := Plan.make_eq_keep_iff.mp hkeep due rfl
    rw [hsince] at hstays
    exact Int.not_lt.mp fun hlt => hstays ⟨hlt, hnext⟩
  · intro hle e next now hdue
    rw [Plan.make_eq_keep_iff]
    intro current hat hmove
    exact Int.not_lt.mpr (Int.le_trans (hdue current hat) hle) hmove.1

end Upkeep

namespace Duration

/-- **A longer duration stands for a longer span, unless it is cut short.** The spans of leases and
the margins of upkeep are ordered as the durations they are configured as, exactly unless the longer
duration exceeds the longest span and is replaced by less than the shorter one. Entries that are due
within the configured margin, as far as spans reach, are never moved, exactly if the margin is not
replaced; if it is, entries stay within five minutes and no further. -/
theorem ordered_unless_cut_short (instanceId : String) (zone : Zone) (timeout : Duration)
    {d d' : Duration} (hle : d ≤ d') :
    ((Elector.ofSettings instanceId d timeout).span ≤
        (Elector.ofSettings instanceId d' timeout).span ↔ ¬ CutShort unboundedLease d d') ∧
    ((Upkeep.ofSettings zone d timeout).margin ≤ (Upkeep.ofSettings zone d' timeout).margin ↔
      ¬ CutShort defaultMargin d d') ∧
    ((Upkeep.ofSettings zone d timeout).KeepsWithin (min d.nanos Span.greatest) ↔ d.Fits) ∧
    (¬ d.Fits → ∀ limit, (Upkeep.ofSettings zone d timeout).KeepsWithin limit ↔
      limit ≤ defaultMargin) := by
  have hmargin : (Upkeep.ofSettings zone d timeout).margin = d.spanOr defaultMargin := rfl
  refine ⟨spanOr_le_spanOr_iff hle, spanOr_le_spanOr_iff hle, ?_, fun hlong limit => ?_⟩
  · rw [Upkeep.keepsWithin_iff, hmargin]
    by_cases hfits : d.Fits
    · rw [hfits.spanOr_eq]
      exact iff_of_true (Int.min_le_left _ _) hfits
    · have hgreatest : min (d.nanos : Int) Span.greatest = Span.greatest :=
        Int.min_eq_right (Int.le_of_lt (Int.not_le.mp hfits))
      rw [spanOr_of_not_fits hfits, hgreatest]
      exact iff_of_false (by decide) hfits
  · rw [Upkeep.keepsWithin_iff, hmargin, spanOr_of_not_fits hlong]

/-- The margin of five minutes, and the longest one that is not replaced. -/
theorem ordered_unless_cut_short_longest :
    ofSecs 300 ≤ ofMillis 9223372036854775807 ∧
    (Upkeep.ofSettings .utc (.ofSecs 300) (.ofSecs 5)).margin ≤
      (Upkeep.ofSettings .utc (.ofMillis 9223372036854775807) (.ofSecs 5)).margin ∧
    (Upkeep.ofSettings .utc (.ofSecs 300) (.ofSecs 5)).KeepsWithin (300 * nanosPerSec) := by
  have hle : ofSecs 300 ≤ ofMillis 9223372036854775807 := by decide
  have hcut : ¬ CutShort defaultMargin (.ofSecs 300) (.ofMillis 9223372036854775807) := by decide
  obtain ⟨-, hmargin, hkeeps, -⟩ := ordered_unless_cut_short "a" .utc (.ofSecs 5) hle
  exact ⟨hle, hmargin.mpr hcut, hkeeps.mpr (by decide)⟩

/-- An entry that is due at two in the afternoon of 1 March 2026. -/
def atTwo : Entry := ⟨.drawn 0, "daily", some ⟨1772373600, 0⟩, Json.emptyObject, none, none, 0⟩

/-- One second more makes a lease of 292 million years one of a thousand years, and such a margin
one of five minutes. With the longest of all durations for a margin, an entry that is due in one and
a half hours is moved to a time half an hour ahead. -/
theorem longer_and_cut_short :
    ofSecs 9223372036854775 ≤ ofSecs 9223372036854776 ∧
    ¬ (Elector.ofSettings "a" (.ofSecs 9223372036854775) (.ofSecs 5)).span ≤
      (Elector.ofSettings "a" (.ofSecs 9223372036854776) (.ofSecs 5)).span ∧
    ¬ (Upkeep.ofSettings .utc (.ofSecs 9223372036854775) (.ofSecs 5)).margin ≤
      (Upkeep.ofSettings .utc (.ofSecs 9223372036854776) (.ofSecs 5)).margin ∧
    (⟨1772373600, 0⟩ : Instant).since ⟨1772368215, 0⟩ ≤
      min ((ofSecs 18446744073709551615).nanos : Int) Span.greatest ∧
    Plan.make (some atTwo) ⟨1772370000, 0⟩ ⟨1772368215, 0⟩
        (Upkeep.ofSettings .utc (.ofSecs 18446744073709551615) (.ofSecs 5)).margin =
      .reschedule (.drawn 0) ⟨1772373600, 0⟩ ⟨1772370000, 0⟩ := by
  decide

end Duration

end JobDispatch
