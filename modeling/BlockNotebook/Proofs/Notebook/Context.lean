import BlockNotebook.Notebook.Compile
/-!
What the context of a run reaches.

A context names the variables of the buttons that are pressed. It is handed to
the compiler of every block, and only buttons that set a variable look into it.
`Block.compile_alike` says what two contexts can make of one block, and
`compileBlocks_alike` carries this through a run: the runs end alike, and what
they give differs at most in the texts of such buttons, each by its own name.
-/

namespace BlockNotebook

/-! ## Names in a context -/

namespace Code

/-- The variables of the buttons that are pressed; without a context there are none. -/
def pressed (context : Option Context) : List Text := context.getD []

end Code

namespace Block

open Code

/-- The block is a button that sets the variable of a name. -/
structure Sets (b : Block) (name : String) : Prop where
  kind : b.kind? = some .button
  behavior : b.metadata.text? "deepnote_button_behavior" = some (Text.ofString "set_variable")
  name_eq : name = nameOf ((b.metadata.text? "deepnote_variable_name").getD [])

/-- The block is a button whose variable is pressed in one context and not in the other. -/
def IsTold (on off : Option Context) (b : Block) (name : String) : Prop :=
  b.Sets name ∧ Text.ofString name ∈ pressed on ∧ Text.ofString name ∉ pressed off

/-- The texts of a block under two contexts: one text, unless the block is a button that is pressed in one of them. -/
inductive TextsAgree (c₁ c₂ : Option Context) (b : Block) : Text → Text → Prop
  | same (text : Text) (h₁ : ∀ name, ¬ b.IsTold c₁ c₂ name) (h₂ : ∀ name, ¬ b.IsTold c₂ c₁ name) :
      TextsAgree c₁ c₂ b text text
  | first {name : String} (h : b.IsTold c₁ c₂ name) :
      TextsAgree c₁ c₂ b (assign name "True") (assign name "False")
  | second {name : String} (h : b.IsTold c₂ c₁ name) :
      TextsAgree c₁ c₂ b (assign name "False") (assign name "True")

/-- What a block compiles to under two contexts. Only the texts can differ. -/
structure Alike (c₁ c₂ : Option Context) (b : Block) (x y : Compiled) : Prop where
  ids : x.blockId = b.id ∧ y.blockId = b.id
  kinds : x.kind = b.type ∧ y.kind = b.type
  language : x.language = y.language
  texts : TextsAgree c₁ c₂ b x.text y.text

end Block

/-! ## Work under two contexts -/

/-- Two pieces of work end with one fault, or with results that are related. -/
def EndsAlike {α : Type} (R : α → α → Prop) : Except CompileFault α → Except CompileFault α → Prop
  | .error f, .error g => f = g
  | .ok x, .ok y => R x y
  | _, _ => False

theorem EndsAlike.refl {α : Type} {R : α → α → Prop} (h : ∀ x, R x x) (r : Except CompileFault α) : EndsAlike R r r := by
  cases r with
  | error f => exact rfl
  | ok x => exact h x

theorem EndsAlike.mono {α : Type} {R S : α → α → Prop} (hRS : ∀ x y, R x y → S x y) {r s : Except CompileFault α}
    (h : EndsAlike R r s) : EndsAlike S r s := by
  cases r <;> cases s
  · exact h
  · exact h
  · exact h
  · exact hRS _ _ h

theorem EndsAlike.map {α β : Type} {R : α → α → Prop} {S : β → β → Prop} {f g : α → β}
    (hfg : ∀ x y, R x y → S (f x) (g y)) {r s : Except CompileFault α} (h : EndsAlike R r s) :
    EndsAlike S (r.map f) (s.map g) := by
  cases r <;> cases s
  · exact h
  · exact h
  · exact h
  · exact hfg _ _ h

/-! ## One block -/

namespace Code

/-- What a button compiles to, in three cases. Only in the last one does it depend on the context. -/
theorem button_cases (b : Block) :
    (b.metadata.text? "deepnote_button_behavior" ≠ some (Text.ofString "set_variable") ∧
      ∀ context, button context b = .ok []) ∨
    (∀ context, button context b = .error (.block b.id .buttonWithoutVariable)) ∨
    (b.metadata.text? "deepnote_button_behavior" = some (Text.ofString "set_variable") ∧
      ∃ name, name = nameOf ((b.metadata.text? "deepnote_variable_name").getD []) ∧
        ∀ context, button context b = .ok (assign name (truth ((pressed context).contains (Text.ofString name))))) := by
  have hunfold : ∀ context, button context b =
      if b.metadata.text? "deepnote_button_behavior" != some (Text.ofString "set_variable") then .ok []
      else if ((b.metadata.text? "deepnote_variable_name").getD []).isEmpty then
        .error (.block b.id .buttonWithoutVariable)
      else .ok (assign (nameOf ((b.metadata.text? "deepnote_variable_name").getD []))
        (truth ((pressed context).contains
          (Text.ofString (nameOf ((b.metadata.text? "deepnote_variable_name").getD [])))))) := fun _ => rfl
  by_cases hbehavior : b.metadata.text? "deepnote_button_behavior" = some (Text.ofString "set_variable")
  · right
    cases hname : ((b.metadata.text? "deepnote_variable_name").getD []).isEmpty with
    | true =>
      left
      intro context
      simp [hunfold, hbehavior, hname]
    | false =>
      right
      refine ⟨hbehavior, _, rfl, fun context => ?_⟩
      simp [hunfold, hbehavior, hname]
  · left
    refine ⟨hbehavior, fun context => ?_⟩
    simp [hunfold, hbehavior]

/-- The text that tells whether a name is pressed, under two contexts. -/
theorem told_agrees (c₁ c₂ : Option Context) {b : Block} {name : String} (hsets : b.Sets name) :
    b.TextsAgree c₁ c₂ (assign name (truth ((pressed c₁).contains (Text.ofString name))))
      (assign name (truth ((pressed c₂).contains (Text.ofString name)))) := by
  have hunique : ∀ other, b.Sets other → other = name := fun other h => h.name_eq.trans hsets.name_eq.symm
  have hsame : ∀ {on off : Option Context},
      (Text.ofString name ∈ pressed on → Text.ofString name ∈ pressed off) → ∀ other, ¬ b.IsTold on off other := by
    rintro on off himp other ⟨hother, hon, hoff⟩
    obtain rfl := hunique other hother
    exact hoff (himp hon)
  by_cases h₁ : Text.ofString name ∈ pressed c₁ <;> by_cases h₂ : Text.ofString name ∈ pressed c₂
  all_goals simp only [List.contains_eq_mem, h₁, h₂, decide_true, decide_false]
  · exact .same _ (hsame fun _ => h₂) (hsame fun _ => h₁)
  · exact .first ⟨hsets, h₁, h₂⟩
  · exact .second ⟨hsets, h₂, h₁⟩
  · exact .same _ (hsame fun h => absurd h h₁) (hsame fun h => absurd h h₂)

theorem button_agrees (c₁ c₂ : Option Context) {b : Block} (hkind : b.kind? = some .button) :
    EndsAlike (b.TextsAgree c₁ c₂) (button c₁ b) (button c₂ b) := by
  rcases button_cases b with ⟨hother, hb⟩ | hb | ⟨hbehavior, name, hname, hb⟩
  · rw [hb, hb]
    exact .same _ (fun _ h => hother h.1.behavior) (fun _ h => hother h.1.behavior)
  · rw [hb, hb]
    rfl
  · rw [hb, hb]
    exact told_agrees c₁ c₂ ⟨hkind, hbehavior, hname⟩

end Code

namespace Block

open Code

/-- A block of any other kind has one text, under whatever context. -/
theorem textsAgree_of_kind {c₁ c₂ : Option Context} {b : Block} (hkind : b.kind? ≠ some .button) (text : Text) :
    b.TextsAgree c₁ c₂ text text :=
  .same text (fun _ h => hkind h.1.kind) (fun _ h => hkind h.1.kind)

/-- Of all code only that of buttons depends on the context. -/
theorem code_eq {c₁ c₂ : Option Context} {b : Block} (h : b.kind? ≠ some .button ∨ button c₁ b = button c₂ b) :
    b.code c₁ = b.code c₂ := by
  unfold code
  cases hk : b.kind? with
  | none => rfl
  | some k =>
    cases k with
    | button =>
      have hbutton : button c₁ b = button c₂ b := h.resolve_left fun hkind => hkind hk
      simp only [codeOf, hbutton]
    | _ => rfl

theorem code_agrees (c₁ c₂ : Option Context) (b : Block) :
    EndsAlike (b.TextsAgree c₁ c₂) (b.code c₁) (b.code c₂) := by
  by_cases hkind : b.kind? = some .button
  · unfold code
    simp only [hkind]
    split
    · rfl
    · split
      · exact button_agrees c₁ c₂ hkind
      · rfl
  · rw [code_eq (.inl hkind)]
    exact EndsAlike.refl (textsAgree_of_kind hkind) _

/-- Two contexts make the same of a block, up to the text of a button that is pressed in one of them: the same fault,
nothing under both, or compiled blocks that are alike. What is logged is the same. -/
theorem compile_alike (c₁ c₂ : Option Context) (b : Block) :
    (b.compile c₁).logs = (b.compile c₂).logs ∧
      EndsAlike (Option.Rel (b.Alike c₁ c₂)) (b.compile c₁).result (b.compile c₂).result := by
  unfold compile
  split
  · refine ⟨rfl, (b.code_agrees c₁ c₂).map fun x y hxy => ?_⟩
    exact .some ⟨⟨rfl, rfl⟩, ⟨rfl, rfl⟩, rfl, hxy⟩
  · rename_i hcode
    have hkind : b.kind? ≠ some .button := by
      intro h
      simp [hasCode, h, Kind.hasCode] at hcode
    split
    · refine ⟨rfl, EndsAlike.map (fun x y hxy => ?_) (EndsAlike.refl (R := Eq) (fun _ => rfl) b.markdown)⟩
      obtain rfl := hxy
      exact .some ⟨⟨rfl, rfl⟩, ⟨rfl, rfl⟩, rfl, textsAgree_of_kind hkind x⟩
    · exact ⟨rfl, .none⟩

end Block

/-! ## Runs -/

namespace Notebook

open Code

/-- What comes of blocks under two contexts, in their order. A block comes to something under both, or under neither. -/
inductive Paired (c₁ c₂ : Option Context) : List Block → List Compiled → List Compiled → Prop
  | nil : Paired c₁ c₂ [] [] []
  | both {b : Block} {x y : Compiled} {bs : List Block} {xs ys : List Compiled} (h : b.Alike c₁ c₂ x y)
      (hs : Paired c₁ c₂ bs xs ys) : Paired c₁ c₂ (b :: bs) (x :: xs) (y :: ys)
  | neither (b : Block) {bs : List Block} {xs ys : List Compiled} (hs : Paired c₁ c₂ bs xs ys) :
      Paired c₁ c₂ (b :: bs) xs ys

theorem Paired.length_eq {c₁ c₂ : Option Context} {bs : List Block} {xs ys : List Compiled}
    (h : Paired c₁ c₂ bs xs ys) : xs.length = ys.length := by
  induction h with
  | nil => rfl
  | both _ _ ih => simp [ih]
  | neither _ _ ih => exact ih

/-- What one block comes to, in front of what the others come to. -/
theorem Paired.cons {c₁ c₂ : Option Context} {b : Block} {found₁ found₂ : Option Compiled}
    (h : Option.Rel (b.Alike c₁ c₂) found₁ found₂) {bs : List Block} {xs ys : List Compiled}
    (hs : Paired c₁ c₂ bs xs ys) : Paired c₁ c₂ (b :: bs) (found₁.toList ++ xs) (found₂.toList ++ ys) := by
  cases h with
  | some hxy => exact .both hxy hs
  | none => exact .neither b hs

/-- Runs over the same blocks under two contexts log the same, and end alike. -/
theorem compileBlocks_alike (c₁ c₂ : Option Context) (policy : OnError) (bs : List Block) :
    (compileBlocks c₁ policy bs).logs = (compileBlocks c₂ policy bs).logs ∧
      EndsAlike (Paired c₁ c₂ bs) (compileBlocks c₁ policy bs).result (compileBlocks c₂ policy bs).result := by
  induction bs with
  | nil => exact ⟨rfl, .nil⟩
  | cons b rest ih =>
    obtain ⟨hlogs, hrest⟩ := ih
    obtain ⟨hfirst, halike⟩ := b.compile_alike c₁ c₂
    cases h₁ : (b.compile c₁).result with
    | error f =>
      cases h₂ : (b.compile c₂).result with
      | ok _ => rw [h₁, h₂] at halike; exact halike.elim
      | error g =>
        rw [h₁, h₂] at halike
        obtain rfl : f = g := halike
        simp only [compileBlocks, h₁, h₂]
        split
        · exact ⟨by rw [hfirst, hlogs], hrest.mono fun _ _ hs => .neither b hs⟩
        · exact ⟨hfirst, rfl⟩
    | ok found₁ =>
      cases h₂ : (b.compile c₂).result with
      | error _ => rw [h₁, h₂] at halike; exact halike.elim
      | ok found₂ =>
        rw [h₁, h₂] at halike
        have hfound : Option.Rel (b.Alike c₁ c₂) found₁ found₂ := halike
        simp only [compileBlocks, h₁, h₂]
        exact ⟨by rw [hfirst, hlogs], hrest.map fun _ _ hs => Paired.cons hfound hs⟩

theorem compile_alike (c₁ c₂ : Option Context) (policy : OnError) (n : Notebook) :
    (n.compile c₁ policy).logs = (n.compile c₂ policy).logs ∧
      EndsAlike (Paired c₁ c₂ (sortBlocks n.blocks)) (n.compile c₁ policy).result (n.compile c₂ policy).result := by
  obtain ⟨hlogs, halike⟩ := compileBlocks_alike c₁ c₂ policy (sortBlocks n.blocks)
  cases h₁ : (compileBlocks c₁ policy (sortBlocks n.blocks)).result with
  | error f =>
    cases h₂ : (compileBlocks c₂ policy (sortBlocks n.blocks)).result with
    | ok _ => rw [h₁, h₂] at halike; exact halike.elim
    | error g =>
      rw [h₁, h₂] at halike
      simp only [compile, h₁, h₂]
      exact ⟨hlogs, halike⟩
  | ok xs =>
    cases h₂ : (compileBlocks c₂ policy (sortBlocks n.blocks)).result with
    | error _ => rw [h₁, h₂] at halike; exact halike.elim
    | ok ys =>
      rw [h₁, h₂] at halike
      have hpaired : Paired c₁ c₂ (sortBlocks n.blocks) xs ys := halike
      have hcount : n.counted xs = n.counted ys := by rw [counted, counted, hpaired.length_eq]
      simp only [compile, h₁, h₂]
      exact ⟨by rw [hlogs, hcount], hpaired⟩

/-! ## Contexts with the same names -/

section SameNames

variable {c₁ c₂ : Option Context} (h : ∀ name, name ∈ pressed c₁ ↔ name ∈ pressed c₂)
include h

theorem button_congr (b : Block) : button c₁ b = button c₂ b := by
  rcases button_cases b with ⟨-, hb⟩ | hb | ⟨-, name, -, hb⟩
  · rw [hb, hb]
  · rw [hb, hb]
  · have hcontains : (pressed c₁).contains (Text.ofString name) = (pressed c₂).contains (Text.ofString name) := by
      simp only [List.contains_eq_mem, h]
    rw [hb, hb, hcontains]

theorem compileBlocks_congr (policy : OnError) (bs : List Block) :
    compileBlocks c₁ policy bs = compileBlocks c₂ policy bs := by
  have hblock : ∀ b : Block, b.compile c₁ = b.compile c₂ := fun b => by
    rw [Block.compile, Block.compile, Block.code_eq (.inr (button_congr h b))]
  induction bs with
  | nil => rfl
  | cons b rest ih => simp only [compileBlocks, hblock, ih]

end SameNames

/-! ## Whole notebooks -/

/-- The context reaches nothing but buttons that set a variable. Under any two contexts a notebook logs the same and
ends with the same fault, or with as many compiled blocks, which differ at most in their texts: where a button's
variable is pressed in one context only, the text says so under each. What counts is which names are in a context,
not their order and not how often. -/
theorem context_reaches_buttons (c₁ c₂ : Option Context) (policy : OnError) (n : Notebook) :
    (n.compile c₁ policy).logs = (n.compile c₂ policy).logs ∧
    EndsAlike (fun xs ys => xs.length = ys.length ∧ Paired c₁ c₂ (sortBlocks n.blocks) xs ys)
      (n.compile c₁ policy).result (n.compile c₂ policy).result ∧
    ((∀ name, name ∈ pressed c₁ ↔ name ∈ pressed c₂) → n.compile c₁ policy = n.compile c₂ policy) := by
  obtain ⟨hlogs, halike⟩ := compile_alike c₁ c₂ policy n
  refine ⟨hlogs, ?_, fun h => ?_⟩
  · exact halike.mono fun _ _ hs => ⟨hs.length_eq, hs⟩
  · simp only [compile, compileBlocks_congr h]

/-- A notebook with a button that sets a variable. The stored name is no identifier. -/
def oneButton : Notebook := ⟨.record [("blocks", .list [.arm "button" (.record [
  ("type", .plain (.str "button")),
  ("metadata", .record [("deepnote_button_behavior", .plain (.str "set_variable")),
    ("deepnote_variable_name", .plain (.str "go on!"))] [])] [])])] []⟩

example : ([["go on!", "stop"], ["stop", "go_on"]] : List Context).map (fun context =>
      (oneButton.compile (some context) .fail).result.toOption.map (·.map Compiled.text)) =
    [some [Text.ofString "go_on = False"], some [Text.ofString "go_on = True"]] := by decide +kernel

end Notebook

end BlockNotebook
