import BlockNotebook.Proofs.Yaml.Outcome
import BlockNotebook.Yaml.Node
/-!
The faults of events and of the nodes that are composed of them.

Every fault that is met while events are read is at a place, or it is the fault of
the tokens. The same holds of nodes and events.
-/

namespace BlockNotebook.Yaml

/-! ## Events -/

namespace EventReader

/-- The scalar fault that the tokens end in. -/
abbrev Inherits (F : Option Fault) (f : ScalarFault) : Prop := F = some (.scalar f)

/-- The reading goes on with the tokens that are left, or ends in their fault or in one at a place. -/
abbrev Follows {α : Type} (F : Option Fault) (x : Except Fault (α × EventReader)) : Prop :=
  Ends (Inherits F) (fun a => a.2.tokens.fault = F) x

section
variable {F : Option Fault} {r : EventReader}

theorem peek_ends (h : r.tokens.fault = F) : Ends (Inherits F) (fun _ => True) r.peek := by
  unfold peek
  split
  · exact .ok trivial
  · rename_i f _ hf
    cases f with
    | scalar f => exact .scalar (h ▸ hf)
    | «at» => exact .place
    | unacceptable => exact .character
  · exact .ok trivial

theorem directives_ends (h : r.tokens.fault = F) (fuel : Nat) (versioned : Bool) :
    Ends (Inherits F) (fun r => r.tokens.fault = F) (directives fuel versioned r) := by
  induction fuel generalizing versioned r with
  | zero => exact .ok h
  | succ fuel ih =>
    refine (peek_ends h).bind fun t _ => ?_
    split
    · split
      · exact .place
      split
      · exact .place
      · exact ih (r := r.drop) h _
    · split
      · exact .place
      · exact ih (r := { r.drop with handles := _ }) h _
    · exact ih (r := r.drop) h _
    · exact .ok h

theorem dropDocumentEnds_ends (h : r.tokens.fault = F) (fuel : Nat) :
    Ends (Inherits F) (fun r => r.tokens.fault = F) (dropDocumentEnds fuel r) := by
  induction fuel generalizing r with
  | zero => exact .ok h
  | succ fuel ih =>
    refine (peek_ends h).bind fun t _ => ?_
    split
    · exact ih (r := r.drop) h
    · exact .ok h

theorem document_follows (h : r.tokens.fault = F) : Follows F r.document := by
  refine (dropDocumentEnds_ends h _).bind fun r h => ?_
  refine (peek_ends h).bind fun t _ => ?_
  split
  · exact .ok h
  refine (directives_ends (r := { r with handles := [] }) h _ _).bind fun r h => ?_
  refine (peek_ends h).bind fun s _ => ?_
  split
  · exact .place
  · exact .ok h

theorem implicitDocument_follows (h : r.tokens.fault = F) : Follows F r.implicitDocument := by
  refine (peek_ends h).bind fun t _ => ?_
  split
  · exact document_follows h
  · exact .ok h

theorem documentEnd_follows (h : r.tokens.fault = F) : Follows F r.documentEnd := by
  refine (peek_ends h).bind fun t _ => .ok ?_
  dsimp only [expect]
  split
  · exact h
  · exact h

theorem anchorProperty_follows (h : r.tokens.fault = F) : Follows F r.anchorProperty := by
  refine (peek_ends h).bind fun t _ => ?_
  split <;> exact .ok h

theorem tagProperty_follows (h : r.tokens.fault = F) : Follows F r.tagProperty := by
  refine (peek_ends h).bind fun t _ => ?_
  split <;> exact .ok h

theorem properties_follows (h : r.tokens.fault = F) : Follows F r.properties := by
  refine (anchorProperty_follows h).bind fun ⟨anchor, r⟩ h => ?_
  dsimp only
  split
  · refine (tagProperty_follows h).bind fun ⟨tag, r⟩ h => ?_
    exact .ok h
  · refine (tagProperty_follows h).bind fun ⟨tag, r⟩ h => ?_
    dsimp only
    split
    · exact .ok h
    · refine (anchorProperty_follows h).bind fun ⟨anchor, r⟩ h => ?_
      exact .ok h

theorem resolveTag_ends (r : EventReader) (p : Properties) :
    Ends (Inherits F) (fun _ => True) (r.resolveTag p) := by
  unfold resolveTag
  split
  · exact .ok trivial
  · exact .ok trivial
  split
  · exact .ok trivial
  · exact .place

theorem node_follows (h : r.tokens.fault = F) (block indentless : Bool) : Follows F (r.node block indentless) := by
  refine (peek_ends h).bind fun t _ => ?_
  split
  · exact .ok h
  refine (properties_follows h).bind fun ⟨p, r⟩ h => ?_
  refine (resolveTag_ends r p).bind fun tag _ => ?_
  refine (peek_ends h).bind fun t _ => ?_
  extract_lets start sequence mapping
  split
  · exact .ok h
  split
  all_goals try exact .ok h
  split
  · exact .ok h
  · exact .place

theorem documentContent_follows (h : r.tokens.fault = F) : Follows F r.documentContent := by
  refine (peek_ends h).bind fun t _ => ?_
  split
  · exact .ok h
  · exact node_follows h _ _

/-! ### Collections -/

/-- A part of a collection, which is left out before certain tokens. -/
theorem part_follows (h : r.tokens.fault = F) {absent : Token → Prop} [∀ u, Decidable (absent u)] {m : Mark}
    {now later : Expectation} {block indentless : Bool} :
    Follows F (r.peek >>= fun u =>
      if absent u then return (emptyScalar m, r.expect now) else (r.defer later).node block indentless) :=
  (peek_ends h).bind fun _ _ => .ite (fun _ => .ok h) fun _ => node_follows (r := r.defer later) h _ _

theorem blockSequenceEntry_follows (h : r.tokens.fault = F) : Follows F r.blockSequenceEntry := by
  refine (peek_ends h).bind fun t _ => ?_
  split
  · exact part_follows (r := r.drop) h
  · exact .ok h
  · exact .place

theorem indentlessEntry_follows (h : r.tokens.fault = F) : Follows F r.indentlessEntry := by
  refine (peek_ends h).bind fun t _ => ?_
  split
  · exact part_follows (r := r.drop) h
  · exact .ok h

theorem blockMappingKey_follows (h : r.tokens.fault = F) : Follows F r.blockMappingKey := by
  refine (peek_ends h).bind fun t _ => ?_
  split
  · exact part_follows (r := r.drop) h
  · exact .ok h
  · exact .place

theorem blockMappingValue_follows (h : r.tokens.fault = F) : Follows F r.blockMappingValue := by
  refine (peek_ends h).bind fun t _ => ?_
  split
  · exact part_follows (r := r.drop) h
  · exact .ok h

theorem flowSequenceEnd_follows (h : r.tokens.fault = F) : Follows F r.flowSequenceEnd :=
  (peek_ends h).bind fun _ _ => .ok h

theorem flowSequenceItem_follows (h : r.tokens.fault = F) : Follows F r.flowSequenceItem := by
  refine (peek_ends h).bind fun t _ => ?_
  split
  · exact .ok h
  · exact flowSequenceEnd_follows h
  · exact node_follows (r := r.defer _) h _ _

theorem flowSequenceEntry_follows (h : r.tokens.fault = F) (first : Bool) : Follows F (r.flowSequenceEntry first) := by
  refine (peek_ends h).bind fun t _ => ?_
  split
  · exact flowSequenceEnd_follows h
  split
  · exact flowSequenceItem_follows h
  split
  · exact flowSequenceItem_follows (r := r.drop) h
  · exact .place

theorem flowPairKey_follows (h : r.tokens.fault = F) : Follows F r.flowPairKey := by
  refine (peek_ends h).bind fun t _ => ?_
  exact part_follows (r := r.drop) h

theorem flowPairValue_follows (h : r.tokens.fault = F) : Follows F r.flowPairValue := by
  refine (peek_ends h).bind fun t _ => ?_
  split
  · exact part_follows (r := r.drop) h
  · exact .ok h

theorem flowPairEnd_follows (h : r.tokens.fault = F) : Follows F r.flowPairEnd :=
  (peek_ends h).bind fun _ _ => .ok h

theorem flowMappingEnd_follows (h : r.tokens.fault = F) : Follows F r.flowMappingEnd :=
  (peek_ends h).bind fun _ _ => .ok h

theorem flowMappingItem_follows (h : r.tokens.fault = F) : Follows F r.flowMappingItem := by
  refine (peek_ends h).bind fun t _ => ?_
  split
  · exact part_follows (r := r.drop) h
  · exact flowMappingEnd_follows h
  · exact node_follows (r := r.defer _) h _ _

theorem flowMappingKey_follows (h : r.tokens.fault = F) (first : Bool) : Follows F (r.flowMappingKey first) := by
  refine (peek_ends h).bind fun t _ => ?_
  split
  · exact flowMappingEnd_follows h
  split
  · exact flowMappingItem_follows h
  split
  · exact flowMappingItem_follows (r := r.drop) h
  · exact .place

theorem flowMappingValue_follows (h : r.tokens.fault = F) : Follows F r.flowMappingValue := by
  refine (peek_ends h).bind fun t _ => ?_
  split
  · exact part_follows (r := r.drop) h
  · exact .ok h

/-! ### Steps -/

theorem opening_follows (h : r.tokens.fault = F) {go : EventReader → Except Fault (Event × EventReader)}
    (hgo : ∀ {r : EventReader}, r.tokens.fault = F → Follows F (go r)) : Follows F (r.opening go) :=
  (peek_ends h).bind fun _ _ => hgo h

theorem step_follows (h : r.tokens.fault = F) : Follows F r.step := by
  unfold step
  split
  · exact (peek_ends h).bind fun _ _ => .ok h
  · exact implicitDocument_follows h
  · exact document_follows h
  · exact documentContent_follows h
  · exact documentEnd_follows h
  · exact node_follows h _ _
  · exact opening_follows h blockSequenceEntry_follows
  · exact blockSequenceEntry_follows h
  · exact indentlessEntry_follows h
  · exact opening_follows h blockMappingKey_follows
  · exact blockMappingKey_follows h
  · exact blockMappingValue_follows h
  · exact opening_follows h fun h => flowSequenceEntry_follows h true
  · exact flowSequenceEntry_follows h false
  · exact flowPairKey_follows h
  · exact flowPairValue_follows h
  · exact flowPairEnd_follows h
  · exact opening_follows h fun h => flowMappingKey_follows h true
  · exact flowMappingKey_follows h false
  · exact flowMappingValue_follows h
  · exact (peek_ends h).bind fun _ _ => .ok h
  · exact .ok h

/-- The scalar fault that the events end in is that of the tokens. -/
theorem run_fault (fuel : Nat) (h : r.tokens.fault = F) {f : ScalarFault}
    (hf : (r.run fuel).fault = some (.scalar f)) : F = some (.scalar f) := by
  induction fuel generalizing r with
  | zero => cases hf
  | succ fuel ih =>
    unfold run at hf
    split at hf
    · cases hf
    split at hf
    · rename_i e he
      cases hf
      exact (step_follows h).of_eq_scalar he
    · rename_i e r' hr
      exact ih ((step_follows h).of_eq_ok hr) hf

end

end EventReader

theorem events_fault {ts : Stream Token} {f : ScalarFault} (h : (events ts).fault = some (.scalar f)) :
    ts.fault = some (.scalar f) := EventReader.run_fault (r := .start ts) _ rfl h

end BlockNotebook.Yaml
