import DmaReadout.Journal.Basic
import Mathlib.Tactic.Lemma
import Mathlib.Tactic.SplitIfs

/-!
# Totals of metrics

The totals are an ordered list with one entry for every series that was touched. So the total of
a series is the sum of what was added to it, and a series that was never touched has none.
-/

namespace DmaReadout

namespace Series

lemma precedes_iff {a b : Series} :
    a.precedes b = true ↔ a.name < b.name ∨ a.name = b.name ∧ a.label < b.label := by
  simp [precedes]

lemma precedes_irrefl (a : Series) : ¬a.precedes a = true := by
  rw [precedes_iff]
  rintro (hname | ⟨-, hlabel⟩)
  · exact String.lt_irrefl _ hname
  · exact String.lt_irrefl _ hlabel

lemma precedes_trans {a b c : Series} (h : a.precedes b = true) (h' : b.precedes c = true) :
    a.precedes c = true := by
  rw [precedes_iff] at h h' ⊢
  rcases h with hname | ⟨hname, hlabel⟩
  · rcases h' with hname' | ⟨hname', -⟩
    · exact .inl (String.lt_trans hname hname')
    · exact .inl (hname' ▸ hname)
  · rcases h' with hname' | ⟨hname', hlabel'⟩
    · exact .inl (hname ▸ hname')
    · exact .inr ⟨hname.trans hname', String.lt_trans hlabel hlabel'⟩

/-- Of two series that differ, one precedes the other. -/
lemma precedes_of_not_precedes {a b : Series} (hne : a ≠ b) (h : ¬a.precedes b = true) :
    b.precedes a = true := by
  rw [precedes_iff, not_or, not_and] at h
  rw [precedes_iff]
  by_cases hname : a.name = b.name
  · have hlabel : a.label ≠ b.label := by
      intro hlabel
      apply hne
      cases a
      cases b
      simp_all
    exact .inr ⟨hname.symm, Std.lt_of_le_of_ne (h.2 hname) (Ne.symm hlabel)⟩
  · exact .inl (Std.lt_of_le_of_ne h.1 (Ne.symm hname))

end Series

/-- A link number is known by its text. -/
lemma LinkId.toString_inj {a b : LinkId} : toString a = toString b ↔ a = b := by
  constructor
  · intro h
    have hrepr : a.val.toNat.repr = b.val.toNat.repr := h
    have hdigits := congrArg (fun text => Nat.ofDigitChars 10 text.toList 0) hrepr
    rw [Nat.toList_repr, Nat.toList_repr, Nat.ofDigitChars_ten_toDigits,
      Nat.ofDigitChars_ten_toDigits, UInt32.toNat_inj] at hdigits
    exact congrArg LinkId.mk hdigits
  · rintro rfl
    rfl

/-- The counters of a channel, by what they count. -/
inductive Counter
  /-- The descriptors that the card took for a link. -/
  | pushed (link : LinkId)
  /-- The superpages that were moved off a link. -/
  | ready (link : LinkId)
  | violations (link : LinkId)
  /-- The transitions that were timed. -/
  | transitions (kind : Transition)
deriving DecidableEq

def Counter.series : Counter → Series
  | pushed link => ⟨"superpages_pushed_total", s!"link={link}"⟩
  | ready link => ⟨"superpages_ready_total", s!"link={link}"⟩
  | violations link => ⟨"protocol_violations_total", s!"link={link}"⟩
  | transitions kind => ⟨"channel_transition_duration_seconds", s!"transition={kind.name}"⟩

/-- No two counters share a series. -/
theorem Counter.series_inj {a b : Counter} : a.series = b.series ↔ a = b := by
  constructor
  · intro h
    have hname := congrArg Series.name h
    have hlabel := congrArg Series.label h
    have hlink {first second : LinkId} (h : s!"link={first}" = s!"link={second}") :
        first = second := LinkId.toString_inj.1 ((String.append_right_inj _).1 h)
    cases a with
    | pushed link =>
      cases b with
      | pushed link' => exact congrArg pushed (hlink hlabel)
      | _ => simp [series] at hname
    | ready link =>
      cases b with
      | ready link' => exact congrArg ready (hlink hlabel)
      | _ => simp [series] at hname
    | violations link =>
      cases b with
      | violations link' => exact congrArg violations (hlink hlabel)
      | _ => simp [series] at hname
    | transitions kind =>
      cases b with
      | transitions kind' =>
        have hkind : kind.name = kind'.name := (String.append_right_inj _).1 hlabel
        cases kind <;> cases kind' <;> simp_all [Transition.name]
      | _ => simp [series] at hname
  · rintro rfl
    rfl

namespace Metric

/-- The counter that the event adds to. -/
def counter : Metric → Counter
  | superpagePushed link => .pushed link
  | superpagesReady link _ => .ready link
  | protocolViolation link => .violations link
  | transition kind => .transitions kind

lemma series_counter (metric : Metric) : metric.counter.series = metric.series := by
  cases metric <;> rfl

/-- The total of a counter, if it was touched. -/
def total (counter : Counter) (metrics : List Metric) : Option Nat :=
  (totals metrics).lookup counter.series

/-- What metrics add to a counter. -/
def sum (counter : Counter) : List Metric → Nat
  | [] => 0
  | metric :: metrics =>
    (if metric.counter = counter then metric.amount else 0) + sum counter metrics

/-- A count that is kept only once there is something to count. -/
def present (count : Nat) : Option Nat :=
  if count = 0 then none else some count

/-- The entries are in the order of their series, one for each. -/
def Ordered (sums : List (Series × Nat)) : Prop :=
  sums.Pairwise fun a b => a.1.precedes b.1 = true

variable {series other : Series} {counter : Counter} {amount : Nat}
  {sums : List (Series × Nat)}

lemma mem_addTotal {entry : Series × Nat} (h : entry ∈ addTotal series amount sums) :
    entry.1 = series ∨ ∃ entry' ∈ sums, entry'.1 = entry.1 := by
  induction sums with
  | nil => exact .inl (congrArg Prod.fst (List.mem_singleton.1 h))
  | cons head rest ih =>
    obtain ⟨first, total⟩ := head
    rw [addTotal] at h
    split_ifs at h with heq hprecedes
    · rcases List.mem_cons.1 h with rfl | hmem
      · exact .inl heq.symm
      · exact .inr ⟨entry, List.mem_cons_of_mem _ hmem, rfl⟩
    · rcases List.mem_cons.1 h with rfl | hmem
      · exact .inl rfl
      · exact .inr ⟨entry, hmem, rfl⟩
    · rcases List.mem_cons.1 h with rfl | hmem
      · exact .inr ⟨(first, total), List.mem_cons_self, rfl⟩
      · rcases ih hmem with hseries | ⟨entry', hentry', hsame⟩
        · exact .inl hseries
        · exact .inr ⟨entry', List.mem_cons_of_mem _ hentry', hsame⟩

lemma Ordered.addTotal (h : Ordered sums) (series : Series) (amount : Nat) :
    Ordered (addTotal series amount sums) := by
  induction sums with
  | nil => exact List.pairwise_singleton _ _
  | cons head rest ih =>
    obtain ⟨first, total⟩ := head
    obtain ⟨hfirst, hrest⟩ := List.pairwise_cons.1 h
    rw [Metric.addTotal]
    split_ifs with heq hprecedes
    · exact List.pairwise_cons.2 ⟨hfirst, hrest⟩
    · refine List.pairwise_cons.2 ⟨?_, h⟩
      intro entry hentry
      rcases List.mem_cons.1 hentry with rfl | hentry
      · exact hprecedes
      · exact Series.precedes_trans hprecedes (hfirst entry hentry)
    · refine List.pairwise_cons.2 ⟨?_, ih hrest⟩
      intro entry hentry
      rcases mem_addTotal hentry with hseries | ⟨entry', hentry', hsame⟩
      · rw [hseries]
        exact Series.precedes_of_not_precedes heq hprecedes
      · rw [← hsame]
        exact hfirst entry' hentry'

lemma lookup_cons (first : Series) (total : Nat) :
    ((first, total) :: sums).lookup other =
      if other = first then some total else sums.lookup other := by
  rw [List.lookup_cons]
  by_cases hother : other = first
  · rw [if_pos hother, hother, BEq.rfl]
  · rw [if_neg hother, beq_false_of_ne hother]

/-- A series that precedes all entries has none. -/
lemma lookup_eq_none (h : ∀ entry ∈ sums, series.precedes entry.1 = true) :
    sums.lookup series = none := by
  rw [List.lookup_eq_none_iff]
  intro entry hentry
  rw [bne_iff_ne]
  intro heq
  have hprecedes := h entry hentry
  rw [← heq] at hprecedes
  exact Series.precedes_irrefl _ hprecedes

/-- What is added to one series is found there, and no other series is touched. -/
theorem lookup_addTotal (h : Ordered sums) :
    (addTotal series amount sums).lookup other =
      if other = series then some ((sums.lookup series).getD 0 + amount)
      else sums.lookup other := by
  induction sums with
  | nil =>
    rw [addTotal, lookup_cons]
    simp
  | cons head rest ih =>
    obtain ⟨first, total⟩ := head
    obtain ⟨hfirst, hrest⟩ := List.pairwise_cons.1 h
    rw [addTotal, lookup_cons, lookup_cons]
    by_cases heq : series = first
    · rw [if_pos heq, if_pos heq, lookup_cons, heq]
      by_cases hother : other = first
      · rw [if_pos hother, if_pos hother, Option.getD_some]
      · rw [if_neg hother, if_neg hother, if_neg hother]
    · rw [if_neg heq, if_neg heq]
      by_cases hprecedes : series.precedes first = true
      · have hnone : rest.lookup series = none :=
          lookup_eq_none fun entry hentry => Series.precedes_trans hprecedes (hfirst entry hentry)
        rw [if_pos hprecedes, lookup_cons, lookup_cons, hnone, Option.getD_none, Nat.zero_add]
      · rw [if_neg hprecedes, lookup_cons, ih hrest]
        by_cases hother : other = first
        · rw [if_pos hother, if_pos hother, if_neg fun hseries => heq (hseries.symm.trans hother)]
        · rw [if_neg hother, if_neg hother]

lemma lookup_foldl (h : Ordered sums) {metrics : List Metric}
    (hpositive : ∀ metric ∈ metrics, 0 < metric.amount) :
    (metrics.foldl (fun sums metric => addTotal metric.series metric.amount sums) sums).lookup
        counter.series =
      if sum counter metrics = 0 then sums.lookup counter.series
      else some ((sums.lookup counter.series).getD 0 + sum counter metrics) := by
  induction metrics generalizing sums with
  | nil => rfl
  | cons metric metrics ih =>
    obtain ⟨hfirst, hrest⟩ := List.forall_mem_cons.1 hpositive
    rw [List.foldl_cons, ih (h.addTotal _ _) hrest, lookup_addTotal h, sum, ← series_counter]
    by_cases hcounter : metric.counter = counter
    · have hsum : metric.amount + sum counter metrics ≠ 0 := by omega
      rw [if_pos hcounter, hcounter, if_pos rfl, if_neg hsum, Option.getD_some, Nat.add_assoc]
      by_cases hzero : sum counter metrics = 0
      · rw [if_pos hzero, hzero, Nat.add_zero]
      · rw [if_neg hzero]
    · have hseries : counter.series ≠ metric.counter.series := by
        intro hseries
        exact hcounter (Counter.series_inj.1 hseries.symm)
      rw [if_neg hcounter, if_neg hseries, Nat.zero_add]

/-- The total of a counter is the sum of what was added, and there is none if nothing was. -/
theorem total_eq {metrics : List Metric} (hpositive : ∀ metric ∈ metrics, 0 < metric.amount) :
    total counter metrics = present (sum counter metrics) := by
  have hempty : Ordered [] := .nil
  have htotals : total counter metrics = _ := lookup_foldl hempty hpositive
  rwa [List.lookup_nil, Option.getD_none, Nat.zero_add] at htotals

lemma sum_append (counter : Counter) (metrics others : List Metric) :
    sum counter (metrics ++ others) = sum counter metrics + sum counter others := by
  induction metrics with
  | nil => exact (Nat.zero_add _).symm
  | cons metric metrics ih => rw [List.cons_append, sum, sum, ih, Nat.add_assoc]

end Metric

end DmaReadout
