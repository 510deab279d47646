import NotNullLint.Proofs.Analysis.Settlement
import NotNullLint.Proofs.NotNull.Findings

/-!
The calls that a linter makes for one model.

The rules take turns. A rule that runs is called for each member that it admits, in the order of
declaration or, if it does not mind, in any order, and then these members are marked. Whatever the
orders, each rule that runs is called once for each member that it is to see, the calls say what the
linter reports, and the marks count the members that it reports as checked.
-/

namespace NotNullLint
namespace Linter

/-- A rule is called for a member, each with its place in its list. -/
structure Call where
  turn : Nat
  rule : Rule
  place : Nat
  member : Member

/-- What a rule says when it is called. -/
def Call.visit (path : Path) (m : Model) (c : Call) : Visit :=
  c.rule.visit (context path m) c.member

/-- The calls made so far, and which members have been marked. -/
structure Progress where
  calls : List Call
  marks : List Bool

/-- The members that a rule is to see, with their places. -/
def eligiblePlaces (r : Rule) (m : Model) : List (Member × Nat) :=
  m.members.zipIdx.filter fun x => r.admits x.1

/-- The calls of one rule, in the order of declaration. -/
def callsOf (m : Model) (turn : Nat) (r : Rule) : List Call :=
  (eligiblePlaces r m).map fun x => ⟨turn, r, x.2, x.1⟩

/-- Sets the marks at some places. -/
def mark (places : List (Member × Nat)) (marks : List Bool) : List Bool :=
  places.foldl (fun marks x => marks.set x.2 true) marks

/-- The turn of one rule. -/
inductive Turn (l : Linter) (m : Model) (turn : Nat) (r : Rule) : Progress → Progress → Prop
  | skip {s : Progress} (h : l.runs r = false) : Turn l m turn r s s
  | run {s : Progress} {calls : List Call} (h : l.runs r = true)
      (hcalls : calls.Perm (callsOf m turn r))
      (horder : r.concurrent = false → calls = callsOf m turn r) :
      Turn l m turn r s ⟨s.calls ++ calls, mark (eligiblePlaces r m) s.marks⟩

/-- The turns of some rules, one after the other. -/
inductive Turns (l : Linter) (m : Model) : Nat → List Rule → Progress → Progress → Prop
  | done {turn : Nat} {s : Progress} : Turns l m turn [] s s
  | next {turn : Nat} {r : Rule} {rs : List Rule} {s t u : Progress} (h : Turn l m turn r s t)
      (hrest : Turns l m (turn + 1) rs t u) : Turns l m turn (r :: rs) s u

/-- No calls, and no marks. -/
def start (m : Model) : Progress := ⟨[], m.members.map fun _ => false⟩

/-- All rules have had their turns. -/
def Finishes (l : Linter) (m : Model) (s : Progress) : Prop := Turns l m 0 l.rules (start m) s

/-- The calls of a rule in its turn, in the order of declaration. -/
def turnCalls (l : Linter) (m : Model) (turn : Nat) (r : Rule) : List Call :=
  if l.runs r then callsOf m turn r else []

/-- The calls of some rules, in order. -/
def callsFrom (l : Linter) (m : Model) : Nat → List Rule → List Call
  | _, [] => []
  | turn, r :: rs => l.turnCalls m turn r ++ callsFrom l m (turn + 1) rs

variable {l : Linter} {m : Model} {turn i j : Nat} {r : Rule} {rs : List Rule} {x : Member}
  {s t : Progress} {c : Call}

/-! ### The calls of one rule -/

lemma mem_callsOf : c ∈ callsOf m turn r
    ↔ c.turn = turn ∧ c.rule = r ∧ m.members[c.place]? = some c.member
      ∧ r.admits c.member = true := by
  rw [callsOf, List.mem_map]
  constructor
  · rintro ⟨⟨x, j⟩, hx, rfl⟩
    obtain ⟨hplace, hadmits⟩ := List.mem_filter.1 hx
    exact ⟨rfl, rfl, List.mem_zipIdx_iff_getElem?.1 hplace, hadmits⟩
  · rintro ⟨rfl, rfl, hplace, hadmits⟩
    exact ⟨(c.member, c.place),
      List.mem_filter.2 ⟨List.mem_zipIdx_iff_getElem?.2 hplace, hadmits⟩, rfl⟩

lemma places_callsOf (m : Model) (turn : Nat) (r : Rule) :
    ((callsOf m turn r).map Call.place).Pairwise (· < ·) := by
  have hsub : ((callsOf m turn r).map Call.place).Sublist (List.range' 0 m.members.length) := by
    rw [callsOf, List.map_map, ← List.zipIdx_map_snd]
    exact List.filter_sublist.map Prod.snd
  have hrange : (List.range' 0 m.members.length).Pairwise (· < ·) := List.pairwise_lt_range'
  exact hrange.sublist hsub

/-- A rule is called once for a member that it is to see, and else not at all. -/
lemma countP_callsOf (hx : m.members[j]? = some x) :
    (callsOf m turn r).countP (fun c => c.place == j) = if r.admits x then 1 else 0 := by
  have hnodup : ((callsOf m turn r).map Call.place).Nodup :=
    (places_callsOf m turn r).imp Nat.ne_of_lt
  have hmem : j ∈ (callsOf m turn r).map Call.place ↔ r.admits x = true := by
    rw [List.mem_map]
    constructor
    · rintro ⟨c, hc, rfl⟩
      obtain ⟨-, -, hplace, hadmits⟩ := mem_callsOf.1 hc
      rw [hx] at hplace
      cases hplace
      exact hadmits
    · intro hadmits
      exact ⟨⟨turn, r, j, x⟩, mem_callsOf.2 ⟨rfl, rfl, hx, hadmits⟩, rfl⟩
  have hcount := hnodup.count (a := j)
  rw [List.count, List.countP_map] at hcount
  simp only [hmem] at hcount
  exact hcount

lemma visits_callsOf (path : Path) (m : Model) (turn : Nat) (r : Rule) :
    (callsOf m turn r).map (Call.visit path m)
      = (r.eligible m).map (r.visit (context path m)) := by
  have hmembers : (eligiblePlaces r m).map Prod.fst = r.eligible m := by
    rw [eligiblePlaces, ← Function.comp_def, ← List.filter_map, List.zipIdx_map_fst, Rule.eligible]
  rw [callsOf, List.map_map, ← hmembers, List.map_map]
  rfl

lemma mem_turnCalls : c ∈ l.turnCalls m turn r ↔ l.runs r = true ∧ c ∈ callsOf m turn r := by
  unfold turnCalls
  split <;> simp_all

lemma Turn.calls (h : Turn l m turn r s t) : ∃ calls, t.calls = s.calls ++ calls
    ∧ calls.Perm (l.turnCalls m turn r) ∧ (r.concurrent = false → calls = l.turnCalls m turn r) := by
  cases h with
  | skip hskip =>
    have hnone : l.turnCalls m turn r = [] := by
      rw [turnCalls, if_neg (by simp [hskip])]
    rw [hnone]
    exact ⟨[], (List.append_nil _).symm, .refl _, fun _ => rfl⟩
  | run hrun hcalls horder =>
    have hall : l.turnCalls m turn r = callsOf m turn r := if_pos hrun
    rw [hall]
    exact ⟨_, rfl, hcalls, horder⟩

/-! ### The calls of all rules -/

lemma turn_of_mem_callsFrom (h : c ∈ l.callsFrom m turn rs) : turn ≤ c.turn := by
  induction rs generalizing turn with
  | nil => cases h
  | cons r rs ih =>
    rcases List.mem_append.1 h with h | h
    · exact Nat.le_of_eq (mem_callsOf.1 (mem_turnCalls.1 h).2).1.symm
    · exact Nat.le_of_succ_le (ih h)

/-- The calls that are made in one turn. -/
def inTurn (i : Nat) (calls : List Call) : List Call := calls.filter fun c => c.turn == i

lemma inTurn_eq_nil {calls : List Call} (h : ∀ c ∈ calls, c.turn ≠ i) : inTurn i calls = [] := by
  refine List.filter_eq_nil_iff.2 fun c hc => ?_
  rw [beq_iff_eq]
  exact h c hc

section

variable {first others : List Call} (hfirst : ∀ c ∈ first, c.turn = turn)

include hfirst

lemma inTurn_append_self (hothers : ∀ c ∈ others, turn < c.turn) :
    inTurn turn (first ++ others) = first := by
  have hlater : inTurn turn others = [] := inTurn_eq_nil fun c hc => Nat.ne_of_gt (hothers c hc)
  have hall : inTurn turn first = first :=
    List.filter_eq_self.2 fun c hc => beq_iff_eq.2 (hfirst c hc)
  rw [inTurn, List.filter_append, ← inTurn, ← inTurn, hall, hlater, List.append_nil]

lemma inTurn_append_of_lt (hi : turn < i) : inTurn i (first ++ others) = inTurn i others := by
  have hearlier : inTurn i first = [] := by
    refine inTurn_eq_nil fun c hc => ?_
    rw [hfirst c hc]
    exact Nat.ne_of_lt hi
  rw [inTurn, List.filter_append, ← inTurn, ← inTurn, hearlier, List.nil_append]

end

lemma turn_of_mem_turnCalls (h : c ∈ l.turnCalls m turn r) : c.turn = turn :=
  (mem_callsOf.1 (mem_turnCalls.1 h).2).1

/-- In its turn, a rule makes its own calls. -/
lemma inTurn_callsFrom {k : Nat} (hr : rs[k]? = some r) :
    inTurn (turn + k) (l.callsFrom m turn rs) = l.turnCalls m (turn + k) r := by
  induction rs generalizing turn k with
  | nil => cases hr
  | cons q rs ih =>
    have hfirst : ∀ c ∈ l.turnCalls m turn q, c.turn = turn := fun c hc => turn_of_mem_turnCalls hc
    rw [callsFrom]
    cases k with
    | zero =>
      cases hr
      exact inTurn_append_self hfirst fun c hc => turn_of_mem_callsFrom hc
    | succ k =>
      have hturn : turn + 1 + k = turn + (k + 1) := by omega
      rw [inTurn_append_of_lt hfirst (by omega), ← hturn, ih hr]

/-- **What a run of the turns calls**: the calls in order, up to the order among those of a rule that
does not mind it. -/
theorem Turns.calls (h : Turns l m turn rs s t) : ∃ calls, t.calls = s.calls ++ calls
    ∧ calls.Perm (l.callsFrom m turn rs)
    ∧ ∀ k r, rs[k]? = some r → r.concurrent = false →
      inTurn (turn + k) calls = l.turnCalls m (turn + k) r := by
  induction h with
  | done => exact ⟨[], (List.append_nil _).symm, .refl _, nofun⟩
  | @next turn r rs s t u hturn hrest ih =>
    obtain ⟨first, hfirst, hperm, horder⟩ := hturn.calls
    obtain ⟨others, hothers, hperm', horder'⟩ := ih
    refine ⟨first ++ others, by rw [hothers, hfirst, List.append_assoc], hperm.append hperm',
      fun k q hq hordered => ?_⟩
    have hmine : ∀ c ∈ first, c.turn = turn := fun c hc => turn_of_mem_turnCalls (hperm.subset hc)
    cases k with
    | zero =>
      cases hq
      rw [Nat.add_zero, ← horder hordered]
      exact inTurn_append_self hmine fun c hc => turn_of_mem_callsFrom (hperm'.subset hc)
    | succ k =>
      have hturn : turn + 1 + k = turn + (k + 1) := by omega
      have horder' := horder' k q hq hordered
      rw [hturn] at horder'
      rw [inTurn_append_of_lt hmine (by omega), horder']

lemma Finishes.calls (h : l.Finishes m s) : s.calls.Perm (l.callsFrom m 0 l.rules)
    ∧ ∀ i r, l.rules[i]? = some r → r.concurrent = false →
      inTurn i s.calls = l.turnCalls m i r := by
  obtain ⟨calls, hcalls, hperm, horder⟩ := Turns.calls h
  rw [start, List.nil_append] at hcalls
  simp only [Nat.zero_add] at horder
  rw [hcalls]
  exact ⟨hperm, horder⟩

lemma exists_turns (l : Linter) (m : Model) (turn : Nat) (rs : List Rule) (s : Progress) :
    ∃ t, Turns l m turn rs s t ∧ t.calls = s.calls ++ l.callsFrom m turn rs := by
  induction rs generalizing turn s with
  | nil => exact ⟨s, .done, (List.append_nil _).symm⟩
  | cons r rs ih =>
    obtain ⟨t, hturn, hcalls⟩ :
        ∃ t, Turn l m turn r s t ∧ t.calls = s.calls ++ l.turnCalls m turn r := by
      cases hruns : l.runs r with
      | false => exact ⟨s, .skip hruns, by simp [turnCalls, hruns]⟩
      | true => exact ⟨_, .run hruns (.refl _) fun _ => rfl, by simp [turnCalls, hruns]⟩
    obtain ⟨u, hrest, hcalls'⟩ := ih (turn + 1) t
    exact ⟨u, .next hturn hrest, by rw [hcalls', hcalls, callsFrom, List.append_assoc]⟩

lemma visits_callsFrom (l : Linter) (path : Path) (m : Model) (turn : Nat) (rs : List Rule) :
    (l.callsFrom m turn rs).map (Call.visit path m)
      = (rs.filter l.runs).flatMap fun r => (r.eligible m).map (r.visit (context path m)) := by
  induction rs generalizing turn with
  | nil => rfl
  | cons r rs ih =>
    rw [callsFrom, List.map_append, ih, turnCalls]
    cases hruns : l.runs r with
    | false => simp [hruns]
    | true =>
      rw [if_pos rfl, visits_callsOf, List.filter_cons_of_pos hruns, List.flatMap_cons]

lemma visits_eq_callsFrom (l : Linter) (path : Path) (m : Model) :
    (l.callsFrom m 0 l.rules).map (Call.visit path m) = l.visits path m := by
  rw [visits_callsFrom, visits, shown, active, List.map_flatMap]
  simp only [List.map_map, Function.comp_def]

/-! ### The marks -/

lemma getElem?_mark (places : List (Member × Nat)) (marks : List Bool) (j : Nat) :
    (mark places marks)[j]? = marks[j]?.map (· || places.any fun x => x.2 == j) := by
  induction places generalizing marks with
  | nil => simp [mark]
  | cons x places ih =>
    have hstep : mark (x :: places) marks = mark places (marks.set x.2 true) := rfl
    rw [hstep, ih, List.getElem?_set, List.any_cons]
    by_cases hx : x.2 = j
    · subst hx
      cases hj : marks[x.2]? with
      | none =>
        have hlong : ¬x.2 < marks.length := Nat.not_lt.2 (List.getElem?_eq_none_iff.1 hj)
        simp [hlong]
      | some b =>
        have hshort : x.2 < marks.length := (List.getElem?_eq_some_iff.1 hj).1
        simp [hshort]
    · have hother : (x.2 == j) = false := beq_false_of_ne hx
      simp [hx, hother]

/-- A turn marks what its rule admits. -/
lemma mark_eligiblePlaces (r : Rule) (m : Model) (p : Member → Bool) :
    mark (eligiblePlaces r m) (m.members.map p) = m.members.map fun x => p x || r.admits x := by
  refine List.ext_getElem? fun j => ?_
  rw [getElem?_mark, List.getElem?_map, List.getElem?_map]
  cases hx : m.members[j]? with
  | none => rfl
  | some x =>
    have hany : ((eligiblePlaces r m).any fun y => y.2 == j) = r.admits x := by
      rw [Bool.eq_iff_iff, List.any_eq_true]
      constructor
      · rintro ⟨⟨y, k⟩, hy, hk⟩
        obtain ⟨hplace, hadmits⟩ := List.mem_filter.1 hy
        rw [List.mem_zipIdx_iff_getElem?, eq_of_beq hk, hx] at hplace
        cases hplace
        exact hadmits
      · intro hadmits
        exact ⟨(x, j), List.mem_filter.2 ⟨List.mem_zipIdx_iff_getElem?.2 hx, hadmits⟩,
          beq_self_eq_true j⟩
    rw [Option.map_some, Option.map_some, Option.map_some, hany]

lemma Turn.marks (h : Turn l m turn r s t) {p : Member → Bool}
    (hs : s.marks = m.members.map p) :
    t.marks = m.members.map fun x => p x || (l.runs r && r.admits x) := by
  cases h with
  | skip hskip => simpa [hskip] using hs
  | run hrun =>
    simp only [hrun, Bool.true_and, hs]
    exact mark_eligiblePlaces r m p

/-- **What a run of the turns marks**: what some rule that runs admits. -/
theorem Turns.marks (h : Turns l m turn rs s t) {p : Member → Bool}
    (hs : s.marks = m.members.map p) :
    t.marks = m.members.map fun x => p x || rs.any fun r => l.runs r && r.admits x := by
  induction h generalizing p with
  | done => simpa using hs
  | next hturn hrest ih =>
    rw [ih (hturn.marks hs)]
    simp only [List.any_cons, Bool.or_assoc]

lemma Finishes.marks (h : l.Finishes m s) :
    s.marks = m.members.map fun x => l.active.any (·.admits x) := by
  have hmarks := Turns.marks h (p := fun _ => false) rfl
  rw [hmarks]
  simp only [Bool.false_or, active, List.any_filter]

lemma Finishes.count_marks (h : l.Finishes m s) : s.marks.count true = (l.checked m).length := by
  rw [h.marks, List.count, List.countP_map, checked, ← List.countP_eq_length_filter]
  refine List.countP_congr fun x _ => ?_
  simp

/-! ### How many members are checked -/

/-- Some diagnostic of the rule is enabled. -/
def Enabled (l : Linter) (r : Rule) : Prop := ∃ d ∈ r.descriptors, l.config.isEnabled d = true

/-- The rule is to see the member: it wants generated code, or no tool wrote the member. -/
def Wants (r : Rule) (x : Member) : Prop := r.seesGenerated = true ∨ ¬x.Generated

lemma runs_iff_enabled : l.runs r = true ↔ l.Enabled r := runs_iff

lemma admits_iff_wants : r.admits x = true ↔ Wants r x := by
  rw [Rule.admits, Bool.or_eq_true, Bool.not_eq_true', ← Bool.not_eq_true, Member.isGenerated_iff,
    Wants]

lemma mem_checked : x ∈ l.checked m
    ↔ x ∈ m.members ∧ ∃ r ∈ l.rules, l.Enabled r ∧ Wants r x := by
  rw [checked, List.mem_filter, List.any_eq_true]
  refine and_congr_right fun _ => exists_congr fun r => ?_
  rw [active, List.mem_filter, runs_iff_enabled, admits_iff_wants, and_assoc]

lemma checked_of_none (h : ∀ r ∈ l.rules, ¬l.Enabled r) : l.checked m = [] := by
  refine List.eq_nil_iff_forall_not_mem.2 fun x hx => ?_
  obtain ⟨-, r, hr, henabled, -⟩ := mem_checked.1 hx
  exact h r hr henabled

lemma checked_congr {p : Member → Bool}
    (h : ∀ x, (∃ r ∈ l.rules, l.Enabled r ∧ Wants r x) ↔ p x = true) :
    l.checked m = m.members.filter p := by
  refine List.filter_congr fun x hx => ?_
  rw [Bool.eq_iff_iff, ← h x]
  constructor
  · intro hany
    exact (mem_checked.1 (List.mem_filter.2 ⟨hx, hany⟩)).2
  · intro hwants
    exact (List.mem_filter.1 (mem_checked.2 ⟨hx, hwants⟩)).2

/-- A rule that wants generated code is to see all members. -/
lemma checked_of_seesGenerated (hr : r ∈ l.rules) (henabled : l.Enabled r)
    (hsees : r.seesGenerated = true) : l.checked m = m.members := by
  have hall := checked_congr (l := l) (m := m) (p := fun _ => true) fun x =>
    iff_of_true ⟨r, hr, henabled, .inl hsees⟩ rfl
  rw [hall, List.filter_true]

/-- If no rule wants generated code, they are to see the other members. -/
lemma checked_of_not_seesGenerated (hr : r ∈ l.rules) (henabled : l.Enabled r)
    (hnone : ∀ q ∈ l.rules, l.Enabled q → q.seesGenerated = false) :
    l.checked m = m.members.filter fun x => !decide x.Generated := by
  refine checked_congr fun x => ?_
  rw [Bool.not_eq_true', decide_eq_false_iff_not]
  constructor
  · rintro ⟨q, hq, hqenabled, hsees | hx⟩
    · rw [hnone q hq hqenabled] at hsees
      cases hsees
    · exact hx
  · intro hx
    exact ⟨r, hr, henabled, .inr hx⟩

/-! ### The main statement -/

/-- A rule is called for a member in its turn as often as it is to see it: once, or not at all. -/
lemma Finishes.countP_calls (h : l.Finishes m s) (hr : l.rules[i]? = some r)
    (hx : m.members[j]? = some x) :
    s.calls.countP (fun c => c.turn == i && c.place == j)
      = if l.runs r && r.admits x then 1 else 0 := by
  have hturn : inTurn i (l.callsFrom m 0 l.rules) = l.turnCalls m i r := by
    have hzero := @inTurn_callsFrom l m 0 r l.rules i hr
    rwa [Nat.zero_add] at hzero
  have hsplit : s.calls.countP (fun c => c.turn == i && c.place == j)
      = (inTurn i (l.callsFrom m 0 l.rules)).countP fun c => c.place == j := by
    rw [h.calls.1.countP_eq, inTurn, List.countP_filter]
    refine List.countP_congr fun c _ => ?_
    rw [Bool.and_comm]
  rw [hsplit, hturn, turnCalls]
  cases hruns : l.runs r with
  | false => rfl
  | true => exact countP_callsOf hx

lemma Finishes.perm_visits (h : l.Finishes m s) (path : Path) :
    (s.calls.map (Call.visit path m)).Perm (l.visits path m) := by
  rw [← visits_eq_callsFrom]
  exact h.calls.1.map _

lemma Finishes.getElem?_of_mem (h : l.Finishes m s) (hc : c ∈ s.calls) :
    l.rules[c.turn]? = some c.rule ∧ m.members[c.place]? = some c.member := by
  have hmem {turn : Nat} {rs : List Rule} (hc : c ∈ l.callsFrom m turn rs) :
      ∃ k, c.turn = turn + k ∧ rs[k]? = some c.rule ∧ m.members[c.place]? = some c.member := by
    induction rs generalizing turn with
    | nil => cases hc
    | cons r rs ih =>
      rcases List.mem_append.1 hc with hc | hc
      · obtain ⟨hturn, hrule, hplace, -⟩ := mem_callsOf.1 (mem_turnCalls.1 hc).2
        exact ⟨0, hturn, congrArg some hrule.symm, hplace⟩
      · obtain ⟨k, hturn, hrule, hplace⟩ := ih hc
        exact ⟨k + 1, by omega, hrule, hplace⟩
  obtain ⟨k, hturn, hrule, hplace⟩ := hmem (h.calls.1.subset hc)
  rw [hturn, Nat.zero_add]
  exact ⟨hrule, hplace⟩

lemma Finishes.pairwise_places (h : l.Finishes m s) (hr : l.rules[i]? = some r)
    (hordered : r.concurrent = false) :
    ((inTurn i s.calls).map Call.place).Pairwise (· < ·) := by
  rw [h.calls.2 i r hr hordered, turnCalls]
  split
  · exact places_callsOf m i r
  · exact .nil

/-- **Which calls are made, and what is counted.** Whatever the orders, a rule with an enabled
diagnostic is called once for each member that it is to see, and no other calls are made; a rule that
minds the order is called in the order of declaration. The calls say what the linter reports, and
what is counted are the members that some call was made for: none if no diagnostic is enabled, all if
some rule that runs wants generated code, and else those that no tool wrote. -/
theorem check_of_finishes (l : Linter) (path : Path) (m : Model) :
    (∃ s, l.Finishes m s ∧ s.calls.map (Call.visit path m) = l.visits path m)
    ∧ ∀ s, l.Finishes m s →
      (∀ c ∈ s.calls, l.rules[c.turn]? = some c.rule ∧ m.members[c.place]? = some c.member)
      ∧ (∀ i j r x, l.rules[i]? = some r → m.members[j]? = some x →
        (l.Enabled r ∧ Wants r x → s.calls.countP (fun c => c.turn == i && c.place == j) = 1)
        ∧ (¬(l.Enabled r ∧ Wants r x) → ∀ c ∈ s.calls, ¬(c.turn = i ∧ c.place = j)))
      ∧ (∀ i r, l.rules[i]? = some r → r.concurrent = false →
        ((inTurn i s.calls).map Call.place).Pairwise (· < ·))
      ∧ (s.calls.map (Call.visit path m)).Perm (l.visits path m)
      ∧ (l.check path m).methodsChecked = (s.marks.count true).toUInt64
      ∧ ((∀ r ∈ l.rules, ¬l.Enabled r) → s.marks.count true = 0)
      ∧ ((∃ r ∈ l.rules, l.Enabled r ∧ r.seesGenerated = true) →
        s.marks.count true = m.methodCount)
      ∧ ((∃ r ∈ l.rules, l.Enabled r) →
        (∀ r ∈ l.rules, l.Enabled r → r.seesGenerated = false) →
        s.marks.count true = (m.members.filter fun x => !decide x.Generated).length) := by
  refine ⟨?_, fun s h => ⟨fun c hc => h.getElem?_of_mem hc, fun i j r x hr hx => ?_,
    fun i r => h.pairwise_places, h.perm_visits path, ?_, ?_, ?_, ?_⟩⟩
  · obtain ⟨s, hs, hcalls⟩ := exists_turns l m 0 l.rules (start m)
    refine ⟨s, hs, ?_⟩
    rw [hcalls, start, List.nil_append, visits_eq_callsFrom]
  · have hcount := h.countP_calls hr hx
    rw [← runs_iff_enabled, ← admits_iff_wants, ← Bool.and_eq_true]
    constructor
    · intro hwants
      rw [hcount, if_pos hwants]
    · intro hnot c hc hplace
      rw [if_neg hnot, List.countP_eq_zero] at hcount
      exact hcount c hc (by simp [hplace])
  · rw [h.count_marks]
    rfl
  · intro hnone
    rw [h.count_marks, checked_of_none hnone, List.length_nil]
  · rintro ⟨r, hr, henabled, hsees⟩
    rw [h.count_marks, checked_of_seesGenerated hr henabled hsees, Model.length_members]
  · rintro ⟨r, hr, henabled⟩ hnone
    rw [h.count_marks, checked_of_not_seesGenerated hr henabled hnone]

/-- A rule that wants generated code, in any order, and the same that wants neither. -/
def eagerAndShy : Linter where
  rules := [naming, { naming with seesGenerated := false, concurrent := false }]

/-- A method that a tool wrote, and one that none did. -/
def halfGenerated : Model where
  types := [⟨"os", [], [{ name := "open", generated := true }, { name := "close" }]⟩]

/-- The eager rule is called for the second method first, and the shy one for that method only. -/
theorem check_of_finishes_reversed :
    ∃ s, eagerAndShy.Finishes halfGenerated s
      ∧ (s.calls.map fun c => (c.turn, c.place)) = [(0, 1), (0, 0), (1, 1)]
      ∧ s.calls.countP (fun c => c.turn == 1 && c.place == 1) = 1
      ∧ (∀ c ∈ s.calls, ¬(c.turn = 1 ∧ c.place = 0))
      ∧ (eagerAndShy.check ⟨"os.json"⟩ halfGenerated).methodsChecked = 2 := by
  have heager : eagerAndShy.runs naming = true := by decide +kernel
  have hshy : eagerAndShy.runs { naming with seesGenerated := false, concurrent := false } = true :=
    by decide +kernel
  have hfinishes : eagerAndShy.Finishes halfGenerated _ :=
    .next (.run heager (List.reverse_perm _) nofun) (.next (.run hshy (.refl _) fun _ => rfl) .done)
  obtain ⟨-, hruns⟩ := check_of_finishes eagerAndShy ⟨"os.json"⟩ halfGenerated
  obtain ⟨-, hcalls, -, -, hchecked, -, hall, -⟩ := hruns _ hfinishes
  have hsecond := (hcalls 1 1 _ ⟨_, { name := "close" }⟩ rfl rfl).1
    ⟨runs_iff_enabled.1 hshy, .inr (by decide +kernel)⟩
  have hfirst := (hcalls 1 0 _ ⟨_, { name := "open", generated := true }⟩ rfl rfl).2 ?_
  · refine ⟨_, hfinishes, by decide +kernel, hsecond, hfirst, ?_⟩
    rw [hchecked, hall ⟨naming, List.mem_cons_self, runs_iff_enabled.1 heager, rfl⟩]
    rfl
  · rintro ⟨-, hsees | hwritten⟩
    · cases hsees
    · exact hwritten (by decide +kernel)

end Linter
end NotNullLint
