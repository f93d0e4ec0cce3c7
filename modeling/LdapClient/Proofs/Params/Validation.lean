/-
# LdapClient.Proofs.Params.Validation -- what is said about broken rules

Parameters are refused just if they break a rule, and the message has one line for each rule that it
speaks of (`ReportsEach`).  Limits are looked at first, and the rule about TLS only if both are in
range.  So the message speaks of every broken rule unless both kinds of TLS are asked for and a limit
is out of range as well: then the line about TLS is missing (`conflict_unreported`).

The main statement is `broken_rules_reported_iff`.
-/
import LdapClient.Params
import LdapClient.Proofs.Text.Cut
import LdapClient.Proofs.Text.Decimal
import Mathlib.Data.List.Nodup

namespace LdapClient.Params

open Text

variable {params : Params} {rule : Rule}

/-! ## Broken rules -/

/-- The parameters break the rule. -/
def Breaks (params : Params) : Rule → Prop
  | .networkTimeout => params.networkTimeout < -1
  | .timeLimit => params.timeLimit < -1
  | .oneKindOfTls => params.useLdaps = true ∧ params.useStartTls = true

/-- A limit is out of range. -/
def BreaksLimit (params : Params) : Prop :=
  params.Breaks .networkTimeout ∨ params.Breaks .timeLimit

/-- The rule is broken and, if it is the one about TLS, both limits are in range. -/
def IsReported (params : Params) (rule : Rule) : Prop :=
  params.Breaks rule ∧ (rule = .oneKindOfTls → ¬ params.BreaksLimit)

theorem satisfies_eq_false_iff : params.satisfies rule = false ↔ params.Breaks rule := by
  cases rule <;> simp [satisfies, Breaks]

instance (params : Params) (rule : Rule) : Decidable (params.Breaks rule) :=
  decidable_of_iff _ satisfies_eq_false_iff

theorem mem_brokenLimits_iff :
    rule ∈ params.brokenLimits ↔ rule ≠ .oneKindOfTls ∧ params.Breaks rule := by
  cases rule <;> simp [brokenLimits, satisfies_eq_false_iff]

theorem brokenLimits_eq_nil_iff : params.brokenLimits = [] ↔ ¬ params.BreaksLimit := by
  rw [List.eq_nil_iff_forall_not_mem, BreaksLimit]
  constructor
  · rintro hnone (hbreaks | hbreaks)
    · exact hnone _ (mem_brokenLimits_iff.mpr ⟨by decide, hbreaks⟩)
    · exact hnone _ (mem_brokenLimits_iff.mpr ⟨by decide, hbreaks⟩)
  · intro hlimit rule hrule
    obtain ⟨hne, hbreaks⟩ := mem_brokenLimits_iff.mp hrule
    cases rule with
    | networkTimeout => exact hlimit (Or.inl hbreaks)
    | timeLimit => exact hlimit (Or.inr hbreaks)
    | oneKindOfTls => exact hne rfl

theorem mem_reported_iff : rule ∈ params.reported ↔ params.IsReported rule := by
  unfold reported IsReported
  split
  · rename_i hnone
    have hlimit := brokenLimits_eq_nil_iff.mp hnone
    cases rule with
    | networkTimeout => simpa using fun hbreaks => hlimit (Or.inl hbreaks)
    | timeLimit => simpa using fun hbreaks => hlimit (Or.inr hbreaks)
    | oneKindOfTls => simp [satisfies_eq_false_iff, hlimit]
  · rename_i hsome
    have hlimit : params.BreaksLimit := by
      by_contra hnot
      exact hsome (brokenLimits_eq_nil_iff.mpr hnot)
    simp [mem_brokenLimits_iff, hlimit, and_comm]

/-- No rule is spoken of twice. -/
theorem nodup_reported (params : Params) : params.reported.Nodup := by
  unfold reported
  split
  · exact (List.nodup_singleton Rule.oneKindOfTls).filter _
  · have hlimits : [Rule.networkTimeout, Rule.timeLimit].Nodup := by decide
    exact hlimits.filter _

/-- Something is said just if a rule is broken. -/
theorem reported_ne_nil_iff : params.reported ≠ [] ↔ ∃ rule, params.Breaks rule := by
  constructor
  · intro hne
    obtain ⟨rule, hrule⟩ := List.exists_mem_of_ne_nil _ hne
    exact ⟨rule, (mem_reported_iff.mp hrule).1⟩
  · rintro ⟨rule, hbreaks⟩
    by_cases hlimit : params.BreaksLimit
    · rcases hlimit with hbroken | hbroken
      · exact List.ne_nil_of_mem (mem_reported_iff.mpr ⟨hbroken, nofun⟩)
      · exact List.ne_nil_of_mem (mem_reported_iff.mpr ⟨hbroken, nofun⟩)
    · exact List.ne_nil_of_mem (mem_reported_iff.mpr ⟨hbreaks, fun _ => hlimit⟩)

/-! ## Lines of the message -/

theorem toList_rangeLine (name : String) (seconds : Int) :
    (rangeLine name seconds).toList =
      name.toList ++ ": Validation error: range [\x7b\"min\": Number(-1), \"value\": Number(".toList ++
        (Decimal.ofInt seconds).toList ++ ")\x7d]".toList := by
  simp only [rangeLine, String.toList_append]

theorem newline_not_mem_rangeLine {name : String} (h : '\n' ∉ name.toList) (seconds : Int) :
    '\n' ∉ (rangeLine name seconds).toList := by
  have hnumber : '\n' ∉ (Decimal.ofInt seconds).toList :=
    Decimal.not_mem_ofInt (by decide) (by decide)
  rw [toList_rangeLine]
  simp only [List.mem_append, h, hnumber, false_or, or_false]
  decide

/-- A line is one line. -/
theorem newline_not_mem_ruleLine (rule : Rule) : '\n' ∉ (params.ruleLine rule).toList := by
  cases rule with
  | networkTimeout => exact newline_not_mem_rangeLine (by decide) _
  | timeLimit => exact newline_not_mem_rangeLine (by decide) _
  | oneKindOfTls =>
    rw [ruleLine]
    decide

/-- The line begins with the field that it is about. -/
theorem head?_ruleLine (rule : Rule) : (params.ruleLine rule).toList.head? = some
    (match rule with
      | .networkTimeout => 'n'
      | .timeLimit => 't'
      | .oneKindOfTls => '_') := by
  cases rule with
  | networkTimeout => simp [ruleLine, toList_rangeLine]
  | timeLimit => simp [ruleLine, toList_rangeLine]
  | oneKindOfTls =>
    rw [ruleLine]
    decide

theorem ruleLine_injective (params : Params) : Function.Injective params.ruleLine := by
  intro a b heq
  have hhead := congrArg (fun line => line.toList.head?) heq
  simp only [head?_ruleLine] at hhead
  cases a <;> cases b <;> first | rfl | cases hhead

/-- The message has one line for each of these rules, no line for another rule, and no other
lines. -/
structure ReportsEach (params : Params) (message : String) (rules : Rule → Prop) : Prop where
  once : ∀ rule, rules rule → (lines message).count (params.ruleLine rule) = 1
  silent : ∀ rule, ¬ rules rule → params.ruleLine rule ∉ lines message
  only : ∀ line ∈ lines message, ∃ rule, rules rule ∧ line = params.ruleLine rule

/-- A message tells which rules it is about. -/
theorem ReportsEach.iff {message : String} {rules others : Rule → Prop}
    (h : params.ReportsEach message rules) (hothers : params.ReportsEach message others) :
    rules rule ↔ others rule := by
  have hsome {rules others : Rule → Prop} (h : params.ReportsEach message rules)
      (hothers : params.ReportsEach message others) (hrule : rules rule) : others rule := by
    by_contra hnot
    have hline : params.ruleLine rule ∈ lines message := by
      rw [← List.count_pos_iff, h.once rule hrule]
      exact Nat.one_pos
    exact hothers.silent rule hnot hline
  exact ⟨hsome h hothers, hsome hothers h⟩

theorem lines_ruleLines (params : Params) {rules : List Rule} (hne : rules ≠ []) :
    lines (join "\n" (rules.map params.ruleLine)) = rules.map params.ruleLine := by
  apply lines_join (mt List.map_eq_nil_iff.mp hne)
  exact List.forall_mem_map.mpr fun rule _ => newline_not_mem_ruleLine rule

theorem reportsEach_join {rules : List Rule} (hne : rules ≠ []) (hnodup : rules.Nodup) :
    params.ReportsEach (join "\n" (rules.map params.ruleLine)) (· ∈ rules) := by
  have hlines := lines_ruleLines params hne
  have hinjective := ruleLine_injective params
  constructor
  · intro rule hrule
    rw [hlines]
    exact List.count_eq_one_of_mem (hnodup.map hinjective) (List.mem_map_of_mem hrule)
  · intro rule hnot hline
    rw [hlines, List.mem_map_of_injective hinjective] at hline
    exact hnot hline
  · intro line hline
    rw [hlines] at hline
    obtain ⟨rule, hrule, rfl⟩ := List.mem_map.mp hline
    exact ⟨rule, hrule, rfl⟩

/-! ## Refused parameters -/

theorem ensureValid_eq_error_iff {failure : Failure} :
    params.ensureValid = .error failure ↔
      params.reported ≠ [] ∧ failure = .param (join "\n" (params.reported.map params.ruleLine)) := by
  unfold ensureValid
  split
  · rename_i hnone
    rw [hnone]
    simp
  · rename_i hsome
    rw [Except.error.injEq, eq_comm]
    exact (and_iff_right hsome).symm

/-- What parameters are refused with speaks of the reported rules. -/
theorem reportsEach_of_error {failure : Failure} (h : params.ensureValid = .error failure) :
    failure.code = .paramError ∧ params.ReportsEach failure.message params.IsReported := by
  obtain ⟨hne, rfl⟩ := ensureValid_eq_error_iff.mp h
  have hrules : params.IsReported = (· ∈ params.reported) :=
    funext fun rule => propext mem_reported_iff.symm
  refine ⟨rfl, ?_⟩
  rw [hrules]
  exact reportsEach_join hne (nodup_reported params)

/-- Only the rule about TLS can be broken and passed over. -/
theorem isReported_iff_breaks :
    (∀ rule, params.IsReported rule ↔ params.Breaks rule) ↔
      ¬ (params.Breaks .oneKindOfTls ∧ params.BreaksLimit) := by
  constructor
  · rintro hall ⟨htls, hlimit⟩
    exact ((hall .oneKindOfTls).mpr htls).2 rfl hlimit
  · rintro hnot rule
    refine ⟨And.left, fun hbreaks => ⟨hbreaks, ?_⟩⟩
    rintro rfl hlimit
    exact hnot ⟨hbreaks, hlimit⟩

/-- Parameters are refused if and only if they break a rule: a limit below -1, or both kinds of TLS
at once.  Refused parameters give the failure for parameters, and its message has one line for each
broken rule, save that the rule about TLS has none where a limit is out of range.  So the message is
about just the broken rules if and only if not both kinds of rules are broken. -/
theorem broken_rules_reported_iff (params : Params) :
    ((∃ failure, params.ensureValid = .error failure) ↔ ∃ rule, params.Breaks rule) ∧
    ∀ failure, params.ensureValid = .error failure →
      failure.code = .paramError ∧ params.ReportsEach failure.message params.IsReported ∧
      (params.ReportsEach failure.message params.Breaks ↔
        ¬ (params.Breaks .oneKindOfTls ∧ params.BreaksLimit)) := by
  constructor
  · rw [← reported_ne_nil_iff]
    constructor
    · rintro ⟨failure, h⟩
      exact (ensureValid_eq_error_iff.mp h).1
    · intro hne
      exact ⟨_, ensureValid_eq_error_iff.mpr ⟨hne, rfl⟩⟩
  · intro failure h
    obtain ⟨hcode, hreports⟩ := reportsEach_of_error h
    refine ⟨hcode, hreports, ?_⟩
    rw [← isReported_iff_breaks]
    constructor
    · intro hbroken rule
      exact hreports.iff hbroken
    · intro hall
      rwa [← funext fun rule => propext (hall rule)]

/-- Both limits are out of range, and each has its line. -/
theorem both_limits_reported :
    let params : Params := { networkTimeout := -2, timeLimit := -9223372036854775808 }
    ∃ failure, params.ensureValid = .error failure ∧ failure.code = .paramError ∧
      params.ReportsEach failure.message params.Breaks ∧
      (lines failure.message).count (params.ruleLine .timeLimit) = 1 := by
  intro params
  obtain ⟨hrefused, hreported⟩ := broken_rules_reported_iff params
  obtain ⟨failure, h⟩ := hrefused.mpr ⟨.networkTimeout, by decide⟩
  obtain ⟨hcode, -, hbroken⟩ := hreported failure h
  have hreports := hbroken.mpr (by simp [params, Breaks])
  exact ⟨failure, h, hcode, hreports, hreports.once .timeLimit (by decide)⟩

/-- All three rules are broken, and the message is about two of them. -/
theorem conflict_unreported :
    let params : Params :=
      { networkTimeout := -2, timeLimit := -3, useLdaps := true, useStartTls := true }
    ∃ failure, params.ensureValid = .error failure ∧
      lines failure.message = [params.ruleLine .networkTimeout, params.ruleLine .timeLimit] ∧
      params.Breaks .oneKindOfTls ∧ ¬ params.ReportsEach failure.message params.Breaks := by
  intro params
  have hreported : params.reported = [.networkTimeout, .timeLimit] := by decide
  have hne : params.reported ≠ [] := by
    rw [hreported]
    exact List.cons_ne_nil _ _
  have h := ensureValid_eq_error_iff.mpr ⟨hne, rfl⟩
  refine ⟨_, h, ?_, by decide, fun hbroken => ?_⟩
  · rw [Failure.param, lines_ruleLines params hne, hreported]
    rfl
  · have htls : params.IsReported .oneKindOfTls :=
      ((reportsEach_of_error h).2.iff hbroken).mpr (by decide)
    exact htls.2 rfl (Or.inl (by decide))

end LdapClient.Params
