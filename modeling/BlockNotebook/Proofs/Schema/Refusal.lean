import BlockNotebook.Schema.Shape
/-!
Data is never refused without an issue.
-/

namespace BlockNotebook.Schema

section
variable {α β : Type}

theorem issue_ne_nil (c : Cause) (v : Value) : (issue c v : Verdict α) ≠ .error [] := nofun

theorem map_ne_nil {r : Verdict α} (h : r ≠ .error []) (f : α → β) : r.map f ≠ .error [] := by
  cases r with
  | ok a => nofun
  | error is => exact fun hr => h (congrArg Except.error (Except.error.inj hr))

theorem under_ne_nil (s : Segment) {r : Verdict α} (h : r ≠ .error []) : under s r ≠ .error [] := by
  cases r with
  | ok a => nofun
  | error is => exact fun hr => h (congrArg Except.error (List.map_eq_nil_iff.1 (Except.error.inj hr)))

theorem collect_ne_nil {rs : List (Verdict α)} (h : ∀ r ∈ rs, r ≠ .error []) : collect rs ≠ .error [] := by
  induction rs with
  | nil => nofun
  | cons r rs ih =>
    obtain ⟨hr, hrs⟩ := List.forall_mem_cons.1 h
    unfold collect
    split
    · nofun
    · rename_i is his
      exact his ▸ ih hrs
    · exact fun hi => hr (congrArg Except.error (Except.error.inj hi))
    · rename_i is js _
      exact fun hi => hr (congrArg Except.error (List.append_eq_nil_iff.1 (Except.error.inj hi)).1)

end

theorem scalar_ne_nil {α : Type} (read : Value → Except Cause α) (write : α → Value) (v : Value) :
    scalar read write v ≠ .error [] := by
  unfold scalar
  split <;> nofun

theorem checkChoice_ne_nil (options : List String) (v : Value) : checkChoice options v ≠ .error [] := by
  unfold checkChoice
  split
  · split <;> rintro ⟨⟩
  · rintro ⟨⟩

theorem checkTextOrTexts_ne_nil (v : Value) : checkTextOrTexts v ≠ .error [] := by
  unfold checkTextOrTexts
  split
  · nofun
  · split <;> nofun

theorem checkTextOrPair_ne_nil (v : Value) : checkTextOrPair v ≠ .error [] := by
  unfold checkTextOrPair
  split
  · nofun
  · split <;> nofun

theorem checkOpenMapping_ne_nil (v : Value) : checkOpenMapping v ≠ .error [] := by
  unfold checkOpenMapping
  split
  · exact issue_ne_nil _ _
  · extract_lets parts
    refine map_ne_nil (collect_ne_nil (List.forall_mem_map.2 fun e _ => ?_)) _
    split
    · rintro ⟨⟩
    · exact under_ne_nil _ (under_ne_nil _ (issue_ne_nil _ _))

theorem checkOthers_ne_nil (used : List String) (entries : List (Value × Value)) :
    checkOthers used entries ≠ .error [] := by
  refine map_ne_nil (collect_ne_nil (List.forall_mem_map.2 fun e _ => ?_)) _
  split
  · rintro ⟨⟩
  · exact under_ne_nil _ (issue_ne_nil _ _)

theorem recordVerdict_ne_nil (keepsOthers : Bool) (used : List String) (entries : List (Value × Value))
    {fields : Verdict (List (String × Checked))} (h : fields ≠ .error []) :
    recordVerdict keepsOthers used entries fields ≠ .error [] := by
  have hothers : (if keepsOthers then checkOthers used entries else .ok []) ≠ .error [] := by
    split
    · exact checkOthers_ne_nil _ _
    · rintro ⟨⟩
  unfold recordVerdict
  split
  · exact issue_ne_nil _ _
  split
  · rintro ⟨⟩
  · rename_i is his
    exact fun hi => hothers (his.trans (congrArg Except.error (Except.error.inj hi)))
  · exact fun hi => h (congrArg Except.error (Except.error.inj hi))
  · exact fun hi => h (congrArg Except.error (List.append_eq_nil_iff.1 (Except.error.inj hi)).1)

mutual

theorem check_ne_nil : ∀ (s : Shape) (v : Value), check s v ≠ .error []
  | .any, v => nofun
  | .text, v => scalar_ne_nil _ _ v
  | .flag, v => scalar_ne_nil _ _ v
  | .whole, v => scalar_ne_nil _ _ v
  | .number, v => scalar_ne_nil _ _ v
  | .choice options, v => checkChoice_ne_nil options v
  | .textOrTexts, v => checkTextOrTexts_ne_nil v
  | .textOrPair, v => checkTextOrPair_ne_nil v
  | .nullable s, v => by
    unfold check
    split
    · nofun
    · exact check_ne_nil s v
  | .listOf s, v => by
    unfold check
    split
    · exact issue_ne_nil _ _
    · refine map_ne_nil (collect_ne_nil fun r hr => ?_) _
      obtain ⟨i, hi, rfl⟩ := List.mem_mapIdx.1 hr
      exact under_ne_nil _ (check_ne_nil s _)
  | .openMapping, v => checkOpenMapping_ne_nil v
  | .record title keepsOthers fields, v => by
    unfold check
    split
    · exact issue_ne_nil _ _
    · exact recordVerdict_ne_nil _ _ _ (collect_ne_nil (checkFields_ne_nil fields v _))
  | .tagged key otherwise arms, v => by
    unfold check
    exact map_ne_nil (under_ne_nil _ (checkArm_ne_nil arms _ v)) _

theorem checkFields_ne_nil : ∀ (fields : List (RecordField Shape)) (v : Value) (entries : List (Value × Value)),
    ∀ r ∈ checkFields fields v entries, r ≠ .error []
  | [], v, entries => nofun
  | ⟨name, key, shape, whenAbsent⟩ :: rest, v, entries => by
    unfold checkFields
    refine List.forall_mem_cons.2 ⟨map_ne_nil ?_ _, checkFields_ne_nil rest v entries⟩
    split
    · exact under_ne_nil _ (check_ne_nil shape _)
    · split
      · exact check_ne_nil shape _
      · exact under_ne_nil _ (issue_ne_nil _ _)

theorem checkArm_ne_nil : ∀ (arms : List (String × Shape)) (tag : String) (v : Value), checkArm arms tag v ≠ .error []
  | [], tag, v => nofun
  | (name, shape) :: rest, tag, v => by
    unfold checkArm
    split
    · exact check_ne_nil shape v
    · exact checkArm_ne_nil rest tag v

end

end BlockNotebook.Schema
