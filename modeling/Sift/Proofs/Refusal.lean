import Sift.Proofs.Acceptance

/-!
# Which predicates are refused, and why

A predicate has a meaning for a table if all its leaves have one, `Condition.exists_ofPredicate_iff`.
Otherwise it is refused for its first leaf without a meaning, counted from the left, and for the first
thing that is wrong with that leaf, `Condition.ofPredicate_eq_error_iff`. Both come from one fact: a
tree is accepted or refused as its leaves are, one after the other.
-/
namespace Sift

namespace Predicate

/-- The leaves of a predicate from left to right. -/
def leaves : Predicate → List Predicate
  | logical _ left right => left.leaves ++ right.leaves
  | comparison op left right => [comparison op left right]
  | textMatch field pattern test negated => [textMatch field pattern test negated]
  | membership field values negated => [membership field values negated]

/-- The field that a leaf is about, if its shape says which one it is. -/
def subject? : Predicate → Option String
  | comparison _ (.field name) (.constant _) => some name
  | comparison _ (.constant _) (.field name) => some name
  | textMatch name .. => some name
  | membership name .. => some name
  | _ => none

/-- A leaf that has a meaning for a table. -/
inductive Supported (t : Table) : Predicate → Prop
  | fieldFirst {op : Comparator} {name : String} {v : Value}
      (mapped : name ∈ t.entity.properties) :
      Supported t (.comparison op (.field name) (.constant v))
  | constantFirst {op : Comparator} {name : String} {v : Value}
      (mapped : name ∈ t.entity.properties) :
      Supported t (.comparison op (.constant v) (.field name))
  | membership {name : String} {values : List Value} {negated : Bool}
      (mapped : name ∈ t.entity.properties) : Supported t (.membership name values negated)
  | textMatch {f : Field} {pattern : Value} {test : TextTest} {negated : Bool}
      (mapped : f ∈ t.fields) (text : f.type.scalar.valueType = .text)
      (searched : pattern = .null ∨ ∃ s, pattern = .text s) :
      Supported t (.textMatch f.property pattern test negated)

/-- The first thing that is wrong with a leaf: its shape, then its field, then the type of the field,
then the pattern. -/
inductive Fault (t : Table) : Predicate → Error → Prop
  | twoFields {leaf : Predicate} {op : Comparator} {name name' : String}
      (shape : leaf = .comparison op (.field name) (.field name')) :
      Fault t leaf (.unsupported (Unsupported.twoFields.message leaf))
  | noField {leaf : Predicate} {op : Comparator} {v w : Value}
      (shape : leaf = .comparison op (.constant v) (.constant w)) :
      Fault t leaf (.unsupported (Unsupported.noField.message leaf))
  | unmapped {leaf : Predicate} {name : String} (subject : leaf.subject? = some name)
      (missing : name ∉ t.entity.properties) : Fault t leaf (.fieldNotFound t.entity.name name)
  | notTextField {leaf : Predicate} {f : Field} {pattern : Value} {test : TextTest}
      {negated : Bool} (shape : leaf = .textMatch f.property pattern test negated)
      (mapped : f ∈ t.fields) (other : f.type.scalar.valueType ≠ .text) :
      Fault t leaf (.unsupported ((Unsupported.notTextField f.property).message leaf))
  | notTextPattern {leaf : Predicate} {f : Field} {pattern : Value} {test : TextTest}
      {negated : Bool} (shape : leaf = .textMatch f.property pattern test negated)
      (mapped : f ∈ t.fields) (text : f.type.scalar.valueType = .text)
      (notNull : pattern ≠ .null) (notText : ∀ s, pattern ≠ .text s) :
      Fault t leaf (.unsupported (Unsupported.notTextPattern.message leaf))

/-- A predicate is refused for its first leaf without a meaning, and as that leaf is. -/
def FirstFault (t : Table) (p : Predicate) (err : Error) : Prop :=
  ∃ before leaf after, p.leaves = before ++ leaf :: after ∧ (∀ l ∈ before, l.Supported t) ∧
    leaf.Fault t err

/-- The fields of a predicate are those of its leaves. -/
theorem fields_eq_flatMap_leaves (p : Predicate) : p.fields = p.leaves.flatMap fields := by
  induction p with
  | logical op p q ihp ihq => rw [fields, ihp, ihq, leaves, List.flatMap_append]
  | comparison op left right => exact (List.flatMap_singleton ..).symm
  | textMatch name pattern test negated => exact (List.flatMap_singleton ..).symm
  | membership name values negated => exact (List.flatMap_singleton ..).symm

theorem mem_fields_of_subject? {leaf : Predicate} {name : String}
    (h : leaf.subject? = some name) : name ∈ leaf.fields := by
  unfold subject? at h
  split at h
  · cases h
    exact List.mem_singleton_self _
  · cases h
    exact List.mem_singleton_self _
  · cases h
    exact List.mem_singleton_self _
  · cases h
    exact List.mem_singleton_self _
  · cases h

variable {t : Table} {p leaf : Predicate} {err : Error}

/-- With its fields mapped, a leaf is refused for its shape or for its types alone. -/
theorem Fault.exists_eq_unsupported (h : leaf.Fault t err)
    (mapped : ∀ name ∈ leaf.fields, name ∈ t.entity.properties) : ∃ m, err = .unsupported m := by
  cases h with
  | unmapped subject missing => exact absurd (mapped _ (mem_fields_of_subject? subject)) missing
  | twoFields => exact ⟨_, rfl⟩
  | noField => exact ⟨_, rfl⟩
  | notTextField => exact ⟨_, rfl⟩
  | notTextPattern => exact ⟨_, rfl⟩

/-- A leaf has a meaning or something is wrong with it. -/
theorem supported_or_fault (h : leaf ∈ p.leaves) :
    leaf.Supported t ∨ ∃ err, leaf.Fault t err := by
  induction p with
  | logical op p q ihp ihq => exact (List.mem_append.1 h).elim ihp ihq
  | comparison op left right =>
    obtain rfl := List.mem_singleton.1 h
    cases left with
    | field name =>
      cases right with
      | field name' => exact .inr ⟨_, .twoFields rfl⟩
      | constant v =>
        by_cases hname : name ∈ t.entity.properties
        · exact .inl (.fieldFirst hname)
        · exact .inr ⟨_, .unmapped rfl hname⟩
    | constant v =>
      cases right with
      | field name =>
        by_cases hname : name ∈ t.entity.properties
        · exact .inl (.constantFirst hname)
        · exact .inr ⟨_, .unmapped rfl hname⟩
      | constant w => exact .inr ⟨_, .noField rfl⟩
  | membership name values negated =>
    obtain rfl := List.mem_singleton.1 h
    by_cases hname : name ∈ t.entity.properties
    · exact .inl (.membership hname)
    · exact .inr ⟨_, .unmapped rfl hname⟩
  | textMatch name pattern test negated =>
    obtain rfl := List.mem_singleton.1 h
    by_cases hname : name ∈ t.entity.properties
    · obtain ⟨f, hf, rfl⟩ := List.mem_map.1 hname
      by_cases htext : f.type.scalar.valueType = .text
      · by_cases hnull : pattern = .null
        · exact .inl (.textMatch hf htext (.inl hnull))
        · by_cases hpattern : ∃ s, pattern = .text s
          · exact .inl (.textMatch hf htext (.inr hpattern))
          · exact .inr ⟨_, .notTextPattern rfl hf htext hnull (not_exists.1 hpattern)⟩
      · exact .inr ⟨_, .notTextField rfl hf htext⟩
    · exact .inr ⟨_, .unmapped rfl hname⟩

end Predicate

namespace Table

variable {t : Table}

theorem field_eq_error {name : String} (h : name ∉ t.entity.properties) :
    t.field name = .error (.fieldNotFound t.entity.name name) := by
  unfold field
  cases hfound : t.field? name with
  | none => rfl
  | some f => exact absurd (exists_field_iff.1 ⟨f, hfound⟩) h

end Table

namespace Condition

variable {t : Table} {p leaf : Predicate} {err : Error}

/-! ## One leaf -/

/-- A leaf with a meaning is accepted. -/
theorem exists_ofPredicate_of_supported (h : leaf.Supported t) :
    ∃ c, ofPredicate t leaf = .ok c := by
  cases h with
  | fieldFirst mapped =>
    obtain ⟨f, hf⟩ := Table.exists_field_iff.2 mapped
    exact ⟨_, ofPredicate_comparison.2 ⟨_, _, _, f, rfl, hf, rfl⟩⟩
  | constantFirst mapped =>
    obtain ⟨f, hf⟩ := Table.exists_field_iff.2 mapped
    exact ⟨_, ofPredicate_comparison.2 ⟨_, _, _, f, rfl, hf, rfl⟩⟩
  | membership mapped =>
    obtain ⟨f, hf⟩ := Table.exists_field_iff.2 mapped
    exact ⟨_, ofPredicate_membership.2 ⟨f, hf, rfl⟩⟩
  | @textMatch f pattern test negated mapped text searched =>
    obtain ⟨k, hk⟩ : ∃ k, Clause.ofTextMatch f pattern test negated = .ok k := by
      unfold Clause.ofTextMatch
      rw [if_pos text]
      obtain rfl | ⟨s, rfl⟩ := searched
      · exact ⟨_, rfl⟩
      · exact ⟨_, (apply_ite Except.ok ..).symm⟩
    exact ⟨_, ofPredicate_textMatch.2 ⟨f, k, Table.field?_of_mem mapped, hk, rfl⟩⟩

theorem ofPredicate_comparison_eq {op op' : Comparator} {left right : Operand} {name : String}
    {v : Value} (h : orient op left right = .ok (name, op', v)) :
    ofPredicate t (.comparison op left right) =
      (t.field name).map fun f => .clause (.ofComparison f op' v) := by
  rw [ofPredicate, h]
  change (t.field name >>= _) = _
  cases t.field name <;> rfl

theorem ofPredicate_textMatch_eq {name : String} {f : Field} {pattern : Value} {test : TextTest}
    {negated : Bool} (h : t.field name = .ok f) :
    ofPredicate t (.textMatch name pattern test negated) =
      ((Clause.ofTextMatch f pattern test negated).mapError
        (refuse (.textMatch name pattern test negated))).map .clause := by
  rw [ofPredicate, h]
  change (Except.mapError _ (Clause.ofTextMatch f pattern test negated) >>= _) = _
  cases Clause.ofTextMatch f pattern test negated <;> rfl

/-- A leaf whose field is not found is refused for that. -/
theorem ofPredicate_of_field_eq_error {name : String} (h : leaf.subject? = some name)
    (hfield : t.field name = .error err) : ofPredicate t leaf = .error err := by
  unfold Predicate.subject? at h
  split at h
  · cases h
    rw [ofPredicate_comparison_eq rfl, hfield]
    rfl
  · cases h
    rw [ofPredicate_comparison_eq rfl, hfield]
    rfl
  · cases h
    rw [ofPredicate, hfield]
    rfl
  · cases h
    rw [ofPredicate, hfield]
    rfl
  · cases h

/-- A leaf with something wrong is refused for it. -/
theorem ofPredicate_of_fault (h : leaf.Fault t err) : ofPredicate t leaf = .error err := by
  cases h with
  | twoFields shape =>
    subst shape
    rfl
  | noField shape =>
    subst shape
    rfl
  | unmapped subject missing =>
    exact ofPredicate_of_field_eq_error subject (Table.field_eq_error missing)
  | @notTextField f pattern test negated shape mapped other =>
    subst shape
    have hclause : Clause.ofTextMatch f pattern test negated =
        .error (.notTextField f.property) := if_neg other
    rw [ofPredicate_textMatch_eq (Table.field_eq_ok_iff.2 (Table.field?_of_mem mapped)), hclause]
    rfl
  | @notTextPattern f pattern test negated shape mapped text notNull notText =>
    subst shape
    have hclause : Clause.ofTextMatch f pattern test negated = .error .notTextPattern := by
      unfold Clause.ofTextMatch
      rw [if_pos text]
      cases pattern with
      | null => exact absurd rfl notNull
      | text s => exact absurd rfl (notText s)
      | _ => rfl
    rw [ofPredicate_textMatch_eq (Table.field_eq_ok_iff.2 (Table.field?_of_mem mapped)), hclause]
    rfl

/-! ## All leaves -/

/-- Whether a predicate is accepted, and the error if it is not. -/
def verdict (t : Table) (p : Predicate) : Except Error Unit := (ofPredicate t p).map fun _ => ()

theorem verdict_eq_ok_iff : verdict t p = .ok () ↔ ∃ c, ofPredicate t p = .ok c := by
  rw [verdict, map_eq_ok_iff]
  simp only [and_true]

theorem verdict_eq_error_iff : verdict t p = .error err ↔ ofPredicate t p = .error err :=
  map_eq_error_iff

/-- A leaf is accepted if it has a meaning. -/
theorem verdict_leaf_eq_ok_iff (h : leaf ∈ p.leaves) :
    verdict t leaf = .ok () ↔ leaf.Supported t := by
  rw [verdict_eq_ok_iff]
  constructor
  · rintro ⟨c, hc⟩
    obtain hsupported | ⟨err, hfault⟩ := Predicate.supported_or_fault (t := t) h
    · exact hsupported
    · rw [ofPredicate_of_fault hfault] at hc
      cases hc
  · exact exists_ofPredicate_of_supported

/-- A leaf is refused for what is wrong with it. -/
theorem verdict_leaf_eq_error_iff (h : leaf ∈ p.leaves) :
    verdict t leaf = .error err ↔ leaf.Fault t err := by
  rw [verdict_eq_error_iff]
  constructor
  · intro herr
    obtain hsupported | ⟨err', hfault⟩ := Predicate.supported_or_fault (t := t) h
    · obtain ⟨c, hc⟩ := exists_ofPredicate_of_supported hsupported
      rw [hc] at herr
      cases herr
    · rw [ofPredicate_of_fault hfault] at herr
      cases herr
      exact hfault
  · exact ofPredicate_of_fault

/-- A predicate is judged leaf by leaf. -/
theorem verdict_eq_forM (t : Table) (p : Predicate) :
    verdict t p = p.leaves.forM (verdict t) := by
  have hleaf : ∀ leaf, verdict t leaf = [leaf].forM (verdict t) := by
    intro leaf
    change _ = verdict t leaf >>= fun _ => .ok ()
    cases verdict t leaf <;> rfl
  induction p with
  | comparison op left right => exact hleaf _
  | textMatch name pattern test negated => exact hleaf _
  | membership name values negated => exact hleaf _
  | logical op p q ihp ihq =>
    have happend : (p.leaves ++ q.leaves).forM (verdict t) =
        p.leaves.forM (verdict t) >>= fun _ => q.leaves.forM (verdict t) := List.forM_append
    -- the right side is not looked at once the left one is refused, as in the list
    rw [Predicate.leaves, happend, ← ihp, ← ihq, verdict, verdict, verdict, ofPredicate]
    cases ofPredicate t p with
    | error err => rfl
    | ok l => cases ofPredicate t q <;> rfl

/-- A predicate is accepted if all its leaves have a meaning. -/
theorem exists_ofPredicate_iff :
    (∃ c, ofPredicate t p = .ok c) ↔ ∀ leaf ∈ p.leaves, leaf.Supported t := by
  rw [← verdict_eq_ok_iff, verdict_eq_forM, forM_eq_ok_iff]
  exact forall₂_congr fun leaf h => verdict_leaf_eq_ok_iff h

/-- A predicate that is refused is refused for its first fault. -/
theorem ofPredicate_eq_error_iff : ofPredicate t p = .error err ↔ p.FirstFault t err := by
  rw [← verdict_eq_error_iff, verdict_eq_forM, forM_eq_error_iff]
  refine exists_congr fun before => exists_congr fun leaf => exists_congr fun after => ?_
  refine and_congr_right fun hsplit => ?_
  have hleaf : leaf ∈ p.leaves := by
    rw [hsplit]
    exact List.mem_append_right before (List.mem_cons_self ..)
  have hbefore : ∀ l ∈ before, l ∈ p.leaves := by
    intro l hl
    rw [hsplit]
    exact List.mem_append_left _ hl
  refine and_congr ?_ (verdict_leaf_eq_error_iff hleaf)
  exact forall₂_congr fun l hl => verdict_leaf_eq_ok_iff (hbefore l hl)

/-- The fields of an accepted predicate are mapped. -/
theorem mapped_of_ofPredicate {c : Condition} (h : ofPredicate t p = .ok c) :
    ∀ name ∈ p.fields, name ∈ t.entity.properties := by
  intro name hname
  rw [Predicate.fields_eq_flatMap_leaves, List.mem_flatMap] at hname
  obtain ⟨leaf, hleaf, hname⟩ := hname
  have hsupported := exists_ofPredicate_iff.1 ⟨c, h⟩ leaf hleaf
  cases hsupported with
  | fieldFirst mapped => exact List.mem_singleton.1 hname ▸ mapped
  | constantFirst mapped => exact List.mem_singleton.1 hname ▸ mapped
  | membership mapped => exact List.mem_singleton.1 hname ▸ mapped
  | textMatch mapped =>
    rw [List.mem_singleton.1 hname]
    exact List.mem_map_of_mem mapped

/-- With all its fields mapped, a predicate is refused for the shape or the types of a leaf alone. -/
theorem exists_eq_unsupported (h : ofPredicate t p = .error err)
    (mapped : ∀ name ∈ p.fields, name ∈ t.entity.properties) : ∃ m, err = .unsupported m := by
  obtain ⟨before, leaf, after, hsplit, -, hfault⟩ := ofPredicate_eq_error_iff.1 h
  refine hfault.exists_eq_unsupported fun name hname => mapped name ?_
  rw [Predicate.fields_eq_flatMap_leaves, hsplit]
  exact List.mem_flatMap.2 ⟨leaf, List.mem_append_right before (List.mem_cons_self ..), hname⟩

end Condition

end Sift
