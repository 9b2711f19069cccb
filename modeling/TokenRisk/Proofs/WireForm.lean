import TokenRisk.Proofs.Rounding
import TokenRisk.Survey.Summary
import TokenRisk.Wire

/-!
# Nothing is lost on the wire

A part is rendered as an object with one member for each field. What it was can be told from the
object if its fields have wire names of their own: otherwise a later field would take the place of
an earlier one. So for each kind of part three things are to be known, each from those of the parts
within it: that the wire names differ, that the rendering tells the part, and what it takes for the
rendering to be plain JSON.

## Key results

- `Json.IsMadeOf.renders`: for fields with wire names of their own, all of this is a matter of the
  single fields.
- `Verification.wire_form_loses_nothing`: the rendering of a verification tells the verification,
  and it is plain if the shares in it are finite.
-/

namespace TokenRisk

namespace Json

/-- A value without doubles that are no numbers, in which no object has a key twice. -/
inductive IsPlain : Json → Prop where
  | null : IsPlain .null
  | bool (b : Bool) : IsPlain (.bool b)
  | int (n : Int) : IsPlain (.int n)
  | real (x : Binary64) (finite : x.IsFinite) : IsPlain (.real x)
  | string (s : String) : IsPlain (.string s)
  | array (items : List Json) (plain : ∀ v ∈ items, IsPlain v) : IsPlain (.array items)
  | object (members : List (String × Json)) (distinct : (members.map Prod.fst).Nodup)
      (plain : ∀ m ∈ members, IsPlain m.2) : IsPlain (.object members)

attribute [simp] IsPlain.null IsPlain.bool IsPlain.int IsPlain.string

@[simp] theorem isPlain_real {x : Binary64} : (real x).IsPlain ↔ x.IsFinite := by
  constructor
  · intro h
    cases h
    assumption
  · exact .real x

@[simp] theorem isPlain_array {items : List Json} :
    (array items).IsPlain ↔ ∀ v ∈ items, v.IsPlain := by
  constructor
  · intro h
    cases h
    assumption
  · exact .array items

theorem isPlain_object {members : List (String × Json)} (h : (members.map Prod.fst).Nodup) :
    (object members).IsPlain ↔ ∀ m ∈ members, m.2.IsPlain := by
  constructor
  · intro hplain
    cases hplain
    assumption
  · exact .object members h

/-! ## Texts and missing parts -/

@[simp] theorem ofTexts_inj {l l' : List String} : ofTexts l = ofTexts l' ↔ l = l' := by
  rw [ofTexts, ofTexts, Json.array.injEq]
  exact List.map_inj_right fun _ _ => Json.string.inj

@[simp] theorem isPlain_ofTexts (l : List String) : (ofTexts l).IsPlain := by
  simp [ofTexts]

@[simp] theorem ofText?_inj {x y : Option String} : ofText? x = ofText? y ↔ x = y := by
  cases x <;> cases y <;> simp [ofText?]

@[simp] theorem isPlain_ofText? (x : Option String) : (ofText? x).IsPlain := by
  cases x <;> simp [ofText?]

@[simp] theorem isPlain_ofOption {α : Type} {f : α → Json} {x : Option α} :
    (ofOption f x).IsPlain ↔ ∀ y ∈ x, (f y).IsPlain := by
  cases x <;> simp [ofOption]

/-! ## Fields -/

/-- `ofFields` has a member for each field, if their wire names differ. -/
theorem ofFields_eq {fields : List (String × Json)}
    (h : ((fields.map Prod.fst).map wireName).Nodup) :
    ofFields fields = .object (fields.map fun f => (wireName f.1, f.2)) := by
  -- Members are set one after the other, each behind those before, as its wire name is new.
  have hset (members : List (String × Json))
      (hmembers : (members.map Prod.fst ++ (fields.map Prod.fst).map wireName).Nodup) :
      fields.foldl (fun ms f => setMember (wireName f.1) f.2 ms) members =
        members ++ fields.map fun f => (wireName f.1, f.2) := by
    clear h
    induction fields generalizing members with
    | nil => simp
    | cons f fields ih =>
      have hnew : wireName f.1 ∉ members.map Prod.fst := fun hmem =>
        List.nodup_append.mp hmembers |>.2.2 _ hmem _ List.mem_cons_self rfl
      rw [List.foldl_cons, setMember_of_not_mem hnew, ih]
      · simp
      · simpa using hmembers
  rw [ofFields, hset [] h, List.nil_append]

/-- `render` tells a part, is there for every part, and is plain for the parts that are `plain`. -/
structure Renders {α : Type} (render : α → Json) (plain : α → Prop) : Prop where
  inj : ∀ x y, render x = render y → x = y
  ne_null : ∀ x, render x ≠ .null
  isPlain_iff : ∀ x, (render x).IsPlain ↔ plain x

/-- A kind of part that is made of its `fields`: all parts of the kind have the same ones, each
under a wire name of its own, they make up the part, and they are plain for the parts that are
`plain`. -/
structure IsMadeOf {α : Type} (fields : α → List (String × Json)) (plain : α → Prop) : Prop where
  same : ∀ x y, (fields x).map Prod.fst = (fields y).map Prod.fst
  distinct : ∀ x, (((fields x).map Prod.fst).map wireName).Nodup
  whole : ∀ x y, fields x = fields y → x = y
  plain_iff : ∀ x, (∀ f ∈ fields x, f.2.IsPlain) ↔ plain x

/-- Parts that are made of their fields are told by `ofFields`. -/
theorem IsMadeOf.renders {α : Type} {fields : α → List (String × Json)} {plain : α → Prop}
    (h : IsMadeOf fields plain) : Renders (fun x => ofFields (fields x)) plain where
  inj x y heq := by
    rw [ofFields_eq (h.distinct x), ofFields_eq (h.distinct y), Json.object.injEq] at heq
    -- Parts with the same members have the same values, and so the same fields.
    have hvalues := congrArg (List.map Prod.snd) heq
    simp only [List.map_map, Function.comp_def] at hvalues
    apply h.whole
    rw [← List.zip_unzip (fields x), ← List.zip_unzip (fields y)]
    simp only [List.unzip_eq_map, h.same x y]
    exact congrArg _ hvalues
  ne_null x := by simp [ofFields]
  isPlain_iff x := by
    have hdistinct := h.distinct x
    rw [ofFields_eq hdistinct, isPlain_object (by rwa [List.map_map] at hdistinct ⊢), ← h.plain_iff]
    exact List.forall_mem_map

namespace Renders

variable {α : Type} {render : α → Json} {plain : α → Prop}

theorem eq_iff (h : Renders render plain) {x y : α} : render x = render y ↔ x = y :=
  ⟨h.inj x y, fun heq => by rw [heq]⟩

/-- `ofOption` tells a part that is there from one that is missing. -/
theorem ofOption_eq_iff (h : Renders render plain) {x y : Option α} :
    ofOption render x = ofOption render y ↔ x = y := by
  cases x with
  | none => cases y <;> simp [ofOption, (h.ne_null _).symm]
  | some x => cases y <;> simp [ofOption, h.ne_null, h.eq_iff]

theorem map_eq_iff (h : Renders render plain) {l l' : List α} :
    l.map render = l'.map render ↔ l = l' :=
  List.map_inj_right h.inj

/-- `Renders` holds of a list, which is told by its items. -/
theorem list (h : Renders render plain) :
    Renders (fun l : List α => array (l.map render)) fun l => ∀ x ∈ l, plain x where
  inj _ _ heq := h.map_eq_iff.mp (array.inj heq)
  ne_null _ := by simp
  isPlain_iff l := by simp [h.isPlain_iff]

theorem int : Renders Json.int fun _ => True where
  inj _ _ := Json.int.inj
  ne_null _ := by simp
  isPlain_iff _ := by simp

end Renders

end Json

open Json

/-! ## Parts of an analysis -/

theorem Standard.isMadeOf : IsMadeOf fields (fun _ => True) where
  same _ _ := by simp only [fields, List.map_cons, List.map_nil]
  distinct _ := by
    simp only [fields, List.map_cons, List.map_nil]
    decide
  whole s t h := by
    cases s
    cases t
    simpa [fields] using h
  plain_iff _ := by simp [fields]

theorem Standard.renders : Renders toJson (fun _ => True) :=
  isMadeOf.renders

theorem Ownership.isMadeOf : IsMadeOf fields (fun _ => True) where
  same _ _ := by simp only [fields, List.map_cons, List.map_nil]
  distinct _ := by
    simp only [fields, List.map_cons, List.map_nil]
    decide
  whole o p h := by
    cases o
    cases p
    simpa [fields] using h
  plain_iff _ := by simp [fields]

theorem Ownership.renders : Renders toJson (fun _ => True) :=
  isMadeOf.renders

/-- The shares of `Holders` are finite. -/
structure Holders.IsPlain (h : Holders) : Prop where
  topShare : h.topShare.IsFinite
  top5Share : h.top5Share.IsFinite
  top10Share : h.top10Share.IsFinite

theorem Holders.isMadeOf : IsMadeOf fields Holders.IsPlain where
  same _ _ := by simp only [fields, List.map_cons, List.map_nil]
  distinct _ := by
    simp only [fields, List.map_cons, List.map_nil]
    decide
  whole a b h := by
    cases a
    cases b
    simpa [fields] using h
  plain_iff a := by
    constructor
    · intro h
      obtain ⟨htop, htop5, htop10⟩ := by simpa [fields] using h
      exact ⟨htop, htop5, htop10⟩
    · intro ⟨htop, htop5, htop10⟩
      simp [fields, htop, htop5, htop10]

theorem Holders.renders : Renders toJson Holders.IsPlain :=
  isMadeOf.renders

theorem Findings.isMadeOf : IsMadeOf fields (fun _ => True) where
  same _ _ := by simp only [fields, List.map_cons, List.map_nil]
  distinct _ := by
    simp only [fields, List.map_cons, List.map_nil]
    decide
  whole f g h := by
    cases f
    cases g
    simpa [fields] using h
  plain_iff _ := by simp [fields]

theorem Findings.renders : Renders toJson (fun _ => True) :=
  isMadeOf.renders

/-- The shares of an `Analysis` are finite, and its name is something that JSON can hold, such as a
text or nothing. -/
structure Analysis.IsPlain (a : Analysis) : Prop where
  holders : a.signals.holders.IsPlain
  contractName : a.contractName.IsPlain

/-- `Level.name` is different for different levels. -/
theorem Level.name_inj {l m : Level} : l.name = m.name ↔ l = m := by
  cases l <;> cases m <;> decide

theorem Analysis.isMadeOf : IsMadeOf fields Analysis.IsPlain where
  same _ _ := by simp only [fields, List.map_cons, List.map_nil]
  distinct _ := by
    simp only [fields, List.map_cons, List.map_nil]
    decide
  whole a b h := by
    -- The signals are taken apart as well, since their parts are fields of the analysis.
    obtain ⟨_, _, _, _, ⟨_, _, _, _⟩, _⟩ := a
    obtain ⟨_, _, _, _, ⟨_, _, _, _⟩, _⟩ := b
    simpa [fields, Standard.renders.eq_iff, Ownership.renders.eq_iff, Holders.renders.eq_iff,
      Findings.renders.eq_iff, Level.name_inj, and_assoc] using h
  plain_iff a := by
    constructor
    · intro h
      obtain ⟨hholders, hname⟩ := by
        simpa [fields, Standard.renders.isPlain_iff, Ownership.renders.isPlain_iff,
          Holders.renders.isPlain_iff, Findings.renders.isPlain_iff] using h
      exact ⟨hholders, hname⟩
    · intro ⟨hholders, hname⟩
      simp [fields, Standard.renders.isPlain_iff, Ownership.renders.isPlain_iff,
        Holders.renders.isPlain_iff, Findings.renders.isPlain_iff, hholders, hname]

theorem Analysis.renders : Renders toJson Analysis.IsPlain :=
  isMadeOf.renders

/-! ## Parts of a verification -/

theorem Decision.isMadeOf : IsMadeOf fields (fun _ => True) where
  same _ _ := by simp only [fields, List.map_cons, List.map_nil]
  distinct _ := by
    simp only [fields, List.map_cons, List.map_nil]
    decide
  whole d e h := by
    cases d
    cases e
    simpa [fields] using h
  plain_iff _ := by simp [fields]

theorem Decision.renders : Renders toJson (fun _ => True) :=
  isMadeOf.renders

/-- The analysis of a `ChainRecord` is plain, if it is there. -/
def ChainRecord.IsPlain (r : ChainRecord) : Prop :=
  ∀ a ∈ r.analysis, a.IsPlain

theorem ChainRecord.isMadeOf : IsMadeOf fields ChainRecord.IsPlain where
  same _ _ := by simp only [fields, List.map_cons, List.map_nil]
  distinct _ := by
    simp only [fields, List.map_cons, List.map_nil]
    decide
  whole r q h := by
    cases r
    cases q
    simpa [fields, Analysis.renders.ofOption_eq_iff] using h
  plain_iff _ := by simp [fields, Analysis.renders.isPlain_iff, ChainRecord.IsPlain]

theorem ChainRecord.renders : Renders toJson ChainRecord.IsPlain :=
  isMadeOf.renders

theorem WrappedToken.isMadeOf : IsMadeOf fields (fun _ => True) where
  same _ _ := by simp only [fields, List.map_cons, List.map_nil]
  distinct _ := by
    simp only [fields, List.map_cons, List.map_nil]
    decide
  whole w u h := by
    cases w
    cases u
    simpa [fields] using h
  plain_iff _ := by simp [fields]

theorem WrappedToken.renders : Renders toJson (fun _ => True) :=
  isMadeOf.renders

/-- All records of a `Survey` are plain. -/
def Survey.IsPlain (s : Survey) : Prop :=
  ∀ r ∈ s.records, r.IsPlain

theorem Survey.isMadeOf : IsMadeOf fields Survey.IsPlain where
  same _ _ := by simp only [fields, List.map_cons, List.map_nil]
  distinct _ := by
    simp only [fields, List.map_cons, List.map_nil]
    decide
  whole s t h := by
    cases s
    cases t
    simpa [fields, ChainRecord.renders.map_eq_iff, WrappedToken.renders.map_eq_iff] using h
  plain_iff s := by
    simp [fields, ChainRecord.renders.isPlain_iff, WrappedToken.renders.isPlain_iff, Survey.IsPlain]

theorem Survey.renders : Renders toJson Survey.IsPlain :=
  isMadeOf.renders

theorem Request.isMadeOf : IsMadeOf fields (fun _ => True) where
  same _ _ := by simp only [fields, List.map_cons, List.map_nil]
  distinct _ := by
    simp only [fields, List.map_cons, List.map_nil]
    decide
  whole r q h := by
    cases r
    cases q
    simpa [fields, Renders.int.ofOption_eq_iff, Renders.int.list.ofOption_eq_iff] using h
  plain_iff _ := by simp [fields]

theorem Request.renders : Renders toJson (fun _ => True) :=
  isMadeOf.renders

/-- Both parts of a `Verification` are plain, if they are there. -/
structure Verification.IsPlain (v : Verification) : Prop where
  analysis : ∀ a ∈ v.analysis, a.IsPlain
  survey : ∀ s ∈ v.survey, s.IsPlain

theorem Verification.isMadeOf : IsMadeOf fields Verification.IsPlain where
  same _ _ := by simp only [fields, List.map_cons, List.map_nil]
  distinct _ := by
    simp only [fields, List.map_cons, List.map_nil]
    decide
  whole v w h := by
    cases v
    cases w
    simpa [fields, Request.renders.eq_iff, Decision.renders.eq_iff,
      Analysis.renders.ofOption_eq_iff, Survey.renders.ofOption_eq_iff] using h
  plain_iff v := by
    constructor
    · intro h
      obtain ⟨hanalysis, hsurvey⟩ := by
        simpa [fields, Request.renders.isPlain_iff, Decision.renders.isPlain_iff,
          Analysis.renders.isPlain_iff, Survey.renders.isPlain_iff] using h
      exact ⟨hanalysis, hsurvey⟩
    · intro ⟨hanalysis, hsurvey⟩
      simpa [fields, Request.renders.isPlain_iff, Decision.renders.isPlain_iff,
        Analysis.renders.isPlain_iff, Survey.renders.isPlain_iff] using ⟨hanalysis, hsurvey⟩

theorem Verification.renders : Renders toJson Verification.IsPlain :=
  isMadeOf.renders

/-- `toJson` is the same for the same verifications only. It has no key twice in any object, and is
plain throughout if the shares in it are finite: it holds nothing but objects, lists, texts, truth
values, integers, finite numbers and null. -/
theorem Verification.wire_form_loses_nothing (v w : Verification) :
    (v.toJson = w.toJson ↔ v = w) ∧ (v.toJson.IsPlain ↔ v.IsPlain) :=
  ⟨renders.eq_iff, renders.isPlain_iff v⟩

end TokenRisk
