import CommitCheck.Proofs.Run
import CommitCheck.Proofs.Value.Fields
import CommitCheck.Toml.Reader

/-!
# Names in documents of TOML

No table of a document has a name twice (`hasDistinctNames_of_parse`).  Tables grow by fields
that are set, which keeps the names distinct (`HasDistinctNames.set`), at whatever path that
happens (`keepsNames_changeAt`).  So every statement keeps them distinct, and so do all
statements of a text.  Values written in line are read by three functions that call each other;
`reads_distinct` follows the bound that they share.
-/

namespace CommitCheck

/-- A value in which no table has a name twice. -/
inductive Value.HasDistinctNames : Value → Prop where
  /-- A value that holds no others. -/
  | plain {v : Value} (h : Toml.isContainer v = false) : HasDistinctNames v
  /-- A list of such values. -/
  | list {vs : List Value} (h : ∀ v ∈ vs, HasDistinctNames v) : HasDistinctNames (.list vs)
  /-- A table of such values, under distinct names. -/
  | table {fs : Fields} (hnames : fs.names.Nodup) (h : ∀ f ∈ fs, HasDistinctNames f.2) :
      HasDistinctNames (.table fs)

namespace Value.HasDistinctNames

variable {fs : Fields} {name : Text} {v : Value}

theorem empty : HasDistinctNames (.table []) := .table List.nodup_nil (List.forall_mem_nil _)

theorem nodup (h : HasDistinctNames (.table fs)) : fs.names.Nodup := by
  cases h with
  | plain h => cases h
  | table hnames _ => exact hnames

theorem fields (h : HasDistinctNames (.table fs)) : ∀ f ∈ fs, HasDistinctNames f.2 := by
  cases h with
  | plain h => cases h
  | table _ h => exact h

theorem get? (h : HasDistinctNames (.table fs)) (hv : fs.get? name = some v) :
    HasDistinctNames v :=
  h.fields (name, v) (Fields.mem_of_get? hv)

theorem items {vs : List Value} (h : HasDistinctNames (.list vs)) :
    ∀ v ∈ vs, HasDistinctNames v := by
  cases h with
  | plain h => cases h
  | list h => exact h

/-- A field that is set keeps the names distinct. -/
theorem set (h : HasDistinctNames (.table fs)) (hv : HasDistinctNames v) :
    HasDistinctNames (.table (fs.set name v)) := by
  refine .table (Fields.nodup_names_set h.nodup) fun f hf => ?_
  rcases Fields.mem_set hf with rfl | hf
  · exact hv
  · exact h.fields f hf

/-- So does an item that is put at the end of a list. -/
theorem concat {vs : List Value} (h : ∀ w ∈ vs, HasDistinctNames w) (hv : HasDistinctNames v) :
    HasDistinctNames (.list (vs ++ [v])) := by
  refine .list fun w hw => ?_
  rcases List.mem_append.1 hw with hw | hw
  · exact h w hw
  · obtain rfl := List.mem_singleton.1 hw
    exact hv

end Value.HasDistinctNames

namespace Toml

open Value (HasDistinctNames)
open Result (bind_eq_ok_iff map_eq_ok_iff)

variable {fs gs : Fields} {v : Value}

/-! ## Changes of tables -/

/-- A change of tables that keeps names distinct. -/
def KeepsNames (f : Fields → Option Fields) : Prop :=
  ∀ fs gs, f fs = some gs → HasDistinctNames (.table fs) → HasDistinctNames (.table gs)

theorem keepsNames_some : KeepsNames some := by
  intro fs gs h hfs
  obtain rfl := Option.some.inj h
  exact hfs

theorem keepsNames_setNew {name : Text} (hv : HasDistinctNames v) : KeepsNames (setNew name v) := by
  intro fs gs h hfs
  unfold setNew at h
  split at h
  · cases h
  · obtain rfl := Option.some.inj h
    exact hfs.set hv

theorem keepsNames_addTable (name : Text) : KeepsNames (Document.addTable name) := by
  intro fs gs h hfs
  unfold Document.addTable at h
  split at h
  · obtain rfl := Option.some.inj h
    exact hfs.set (.concat (List.forall_mem_nil _) .empty)
  · rename_i items hitems
    obtain rfl := Option.some.inj h
    exact hfs.set (.concat (hfs.get? hitems).items .empty)
  · cases h

/-- A change keeps the names distinct wherever the table is that it changes. -/
theorem keepsNames_changeAt (enterLists : Bool) (p : Path) {f : Fields → Option Fields}
    (hf : KeepsNames f) : KeepsNames (changeAt enterLists p f) := by
  induction p with
  | nil => exact hf
  | cons k ks ih =>
    intro fs gs h hfs
    unfold changeAt at h
    split at h
    · obtain ⟨inner, hinner, rfl⟩ := Option.map_eq_some_iff.1 h
      exact hfs.set (ih _ _ hinner .empty)
    · rename_i table htable
      obtain ⟨inner, hinner, rfl⟩ := Option.map_eq_some_iff.1 h
      exact hfs.set (ih _ _ hinner (hfs.get? htable))
    · rename_i items hitems
      have hlist := (hfs.get? hitems).items
      split at h
      · rename_i table hlast
        split at h
        · obtain ⟨inner, hinner, rfl⟩ := Option.map_eq_some_iff.1 h
          have htable := hlist _ (List.mem_of_getLast? hlast)
          exact hfs.set (.concat (fun w hw => hlist w (List.dropLast_subset items hw))
            (ih _ _ hinner htable))
        · cases h
      · cases h
    · cases h

/-! ## Statements on a document -/

/-- A document in which no table has a name twice. -/
def Document.IsDistinct (d : Document) : Prop := HasDistinctNames (.table d.root)

variable {d d' : Document}

theorem isDistinct_openSection {p : Path} (hd : d.IsDistinct) (h : d.openSection p = some d') :
    d'.IsDistinct := by
  unfold Document.openSection at h
  dsimp only at h
  split at h
  · cases h
  · obtain ⟨root, hroot, hd'⟩ := Option.bind_eq_some_iff.1 h
    obtain rfl := Option.some.inj hd'
    exact keepsNames_changeAt true p keepsNames_some _ _ hroot hd

theorem isDistinct_openRepeated {p : Path} (hd : d.IsDistinct) (h : d.openRepeated p = some d') :
    d'.IsDistinct := by
  unfold Document.openRepeated at h
  dsimp only at h
  split at h
  · cases h
  · obtain ⟨name, -, h⟩ := Option.bind_eq_some_iff.1 h
    obtain ⟨root, hroot, hd'⟩ := Option.bind_eq_some_iff.1 h
    obtain rfl := Option.some.inj hd'
    exact keepsNames_changeAt true _ (keepsNames_addTable name) _ _ hroot hd

theorem isDistinct_assign {key : Path} (hd : d.IsDistinct) (hv : HasDistinctNames v)
    (h : d.assign key v = some d') : d'.IsDistinct := by
  unfold Document.assign at h
  obtain ⟨name, -, h⟩ := Option.bind_eq_some_iff.1 h
  dsimp only at h
  split at h
  · cases h
  · obtain ⟨root, hroot, hd'⟩ := Option.bind_eq_some_iff.1 h
    obtain rfl := Option.some.inj hd'
    exact keepsNames_changeAt true _ (keepsNames_setNew hv) _ _ hroot hd

theorem hasDistinctNames_assign {t t' : InlineTable} {key : Path}
    (ht : HasDistinctNames (.table t.fields)) (hv : HasDistinctNames v)
    (h : t.assign key v = some t') : HasDistinctNames (.table t'.fields) := by
  unfold InlineTable.assign at h
  obtain ⟨name, -, h⟩ := Option.bind_eq_some_iff.1 h
  split at h
  · cases h
  · obtain ⟨fields, hfields, ht'⟩ := Option.bind_eq_some_iff.1 h
    obtain rfl := Option.some.inj ht'
    exact keepsNames_changeAt false _ (keepsNames_setNew hv) _ _ hfields ht

/-! ## Words -/

theorem isContainer_of_based? {t : Text} (h : based? t = some v) : isContainer v = false := by
  unfold based? at h
  dsimp only at h
  split at h
  all_goals
    first
    | obtain ⟨ds, -, rfl⟩ := Option.map_eq_some_iff.1 h
      rfl
    | cases h

theorem isContainer_of_decimal {negative : Bool} {t : Text} (h : decimal negative t = .ok v) :
    isContainer v = false := by
  unfold decimal at h
  obtain ⟨⟨whole, rest⟩, -, h⟩ := bind_eq_ok_iff.1 h
  dsimp only at h
  split at h
  · cases h
  · obtain ⟨exponent, -, h⟩ := bind_eq_ok_iff.1 h
    split at h
    · obtain rfl := Except.ok.inj h
      rfl
    · obtain rfl := Except.ok.inj h
      rfl

theorem isContainer_of_number {t : Text} (h : number t = .ok v) : isContainer v = false := by
  unfold number at h
  split at h
  · rename_i hbased
    obtain rfl := Except.ok.inj h
    exact isContainer_of_based? hbased
  · dsimp only at h
    split at h
    · obtain rfl := Except.ok.inj h
      rfl
    · split at h
      · obtain rfl := Except.ok.inj h
        rfl
      · exact isContainer_of_decimal h

/-- A word is no table and no list. -/
theorem isContainer_of_word {t : Text} (h : word t = .ok v) : isContainer v = false := by
  unfold word at h
  split at h
  · obtain rfl := Except.ok.inj h
    rfl
  · split at h
    · obtain rfl := Except.ok.inj h
      rfl
    · split at h
      · obtain rfl := Except.ok.inj h
        rfl
      · exact isContainer_of_number h

theorem hasDistinctNames_of_scalar {t rest : Text} (h : scalar t = .ok (v, rest)) :
    HasDistinctNames v := by
  unfold scalar at h
  dsimp only at h
  split at h
  · obtain ⟨rfl, -⟩ := Prod.mk.inj (Except.ok.inj h)
    exact .plain rfl
  · obtain ⟨w, hw, hpair⟩ := map_eq_ok_iff.1 h
    obtain ⟨rfl, -⟩ := Prod.mk.inj hpair
    exact .plain (isContainer_of_word hw)

/-! ## Values -/

/-- What the three readers of values give within a bound. -/
structure Reads (bound : Nat) : Prop where
  /-- A value. -/
  value : ∀ {depth t v rest}, value bound depth t = .ok (v, rest) → HasDistinctNames v
  /-- The items of a list. -/
  items : ∀ {depth t vs rest}, items bound depth t = .ok (vs, rest) →
    ∀ v ∈ vs, HasDistinctNames v
  /-- The fields of a table, after those that were read before. -/
  fields : ∀ {depth table t fs rest}, inlineFields bound depth table t = .ok (fs, rest) →
    HasDistinctNames (.table table.fields) → HasDistinctNames (.table fs)

theorem hasDistinctNames_of_text {r : Option (Text × Text)} {rest : Text}
    (h : orMalformed (r.map fun (s, rest) => (Value.text s, rest)) = .ok (v, rest)) :
    HasDistinctNames v := by
  obtain ⟨⟨s, after⟩, -, hpair⟩ := Option.map_eq_some_iff.1 (orMalformed_eq_ok_iff.1 h)
  obtain ⟨rfl, -⟩ := Prod.mk.inj hpair
  exact .plain rfl

theorem Reads.value_succ {bound depth : Nat} {t rest : Text} (ih : Reads bound)
    (h : Toml.value (bound + 1) depth t = .ok (v, rest)) : HasDistinctNames v := by
  unfold Toml.value at h
  dsimp only at h
  split at h
  · cases h
  · split at h
    · exact hasDistinctNames_of_text h
    · exact hasDistinctNames_of_text h
    · exact hasDistinctNames_of_text h
    · exact hasDistinctNames_of_text h
    · obtain ⟨start, -, h⟩ := bind_eq_ok_iff.1 h
      obtain ⟨⟨vs, after⟩, hitems, h⟩ := bind_eq_ok_iff.1 h
      obtain ⟨rfl, -⟩ := Prod.mk.inj (Except.ok.inj h)
      exact .list (ih.items hitems)
    · obtain ⟨start, -, h⟩ := bind_eq_ok_iff.1 h
      split at h
      · obtain ⟨rfl, -⟩ := Prod.mk.inj (Except.ok.inj h)
        exact .empty
      · obtain ⟨⟨fs, after⟩, hfields, h⟩ := bind_eq_ok_iff.1 h
        obtain ⟨rfl, -⟩ := Prod.mk.inj (Except.ok.inj h)
        exact ih.fields hfields .empty
    · exact hasDistinctNames_of_scalar h

theorem Reads.items_succ {bound depth : Nat} {t rest : Text} {vs : List Value} (ih : Reads bound)
    (h : Toml.items (bound + 1) depth t = .ok (vs, rest)) : ∀ v ∈ vs, HasDistinctNames v := by
  unfold Toml.items at h
  split at h
  · obtain ⟨rfl, -⟩ := Prod.mk.inj (Except.ok.inj h)
    exact List.forall_mem_nil _
  · obtain ⟨⟨v, after⟩, hvalue, h⟩ := bind_eq_ok_iff.1 h
    obtain ⟨next, -, h⟩ := bind_eq_ok_iff.1 h
    split at h
    · obtain ⟨rfl, -⟩ := Prod.mk.inj (Except.ok.inj h)
      exact List.forall_mem_singleton.2 (ih.value hvalue)
    · obtain ⟨start, -, h⟩ := bind_eq_ok_iff.1 h
      obtain ⟨⟨ws, after⟩, hitems, h⟩ := bind_eq_ok_iff.1 h
      obtain ⟨rfl, -⟩ := Prod.mk.inj (Except.ok.inj h)
      exact List.forall_mem_cons.2 ⟨ih.value hvalue, ih.items hitems⟩
    · cases h

theorem Reads.fields_succ {bound depth : Nat} {table : InlineTable} {t rest : Text}
    (ih : Reads bound) (h : inlineFields (bound + 1) depth table t = .ok (fs, rest))
    (htable : HasDistinctNames (.table table.fields)) : HasDistinctNames (.table fs) := by
  unfold inlineFields at h
  obtain ⟨⟨k, after⟩, -, h⟩ := bind_eq_ok_iff.1 h
  dsimp only at h
  split at h
  · obtain ⟨⟨v, behind⟩, hvalue, h⟩ := bind_eq_ok_iff.1 h
    obtain ⟨table', hassign, h⟩ := bind_eq_ok_iff.1 h
    have hnew := hasDistinctNames_assign htable (ih.value hvalue) (orMalformed_eq_ok_iff.1 hassign)
    obtain ⟨next, -, h⟩ := bind_eq_ok_iff.1 h
    split at h
    · obtain ⟨rfl, -⟩ := Prod.mk.inj (Except.ok.inj h)
      exact hnew
    · obtain ⟨start, -, h⟩ := bind_eq_ok_iff.1 h
      split at h
      · obtain ⟨rfl, -⟩ := Prod.mk.inj (Except.ok.inj h)
        exact hnew
      · exact ih.fields h hnew
    · cases h
  · cases h

/-- Values that are read have distinct names, within every bound. -/
theorem reads_distinct (bound : Nat) : Reads bound := by
  induction bound with
  | zero =>
    refine ⟨?_, ?_, ?_⟩
    · intro depth t v rest h
      unfold Toml.value at h
      cases h
    · intro depth t vs rest h
      unfold Toml.items at h
      cases h
    · intro depth table t fs rest h
      unfold inlineFields at h
      cases h
  | succ bound ih => exact ⟨ih.value_succ, ih.items_succ, ih.fields_succ⟩

/-! ## Documents -/

theorem isDistinct_statement {t rest : Text} (hd : d.IsDistinct)
    (h : statement d t = .ok (d', rest)) : d'.IsDistinct := by
  unfold statement at h
  split at h
  · obtain ⟨⟨p, after⟩, -, h⟩ := bind_eq_ok_iff.1 h
    dsimp only at h
    split at h
    · obtain ⟨d₁, hopen, hpair⟩ := map_eq_ok_iff.1 h
      obtain ⟨rfl, -⟩ := Prod.mk.inj hpair
      exact isDistinct_openRepeated hd (orMalformed_eq_ok_iff.1 hopen)
    · cases h
  · obtain ⟨⟨p, after⟩, -, h⟩ := bind_eq_ok_iff.1 h
    dsimp only at h
    split at h
    · obtain ⟨d₁, hopen, hpair⟩ := map_eq_ok_iff.1 h
      obtain ⟨rfl, -⟩ := Prod.mk.inj hpair
      exact isDistinct_openSection hd (orMalformed_eq_ok_iff.1 hopen)
    · cases h
  · obtain ⟨rfl, -⟩ := Prod.mk.inj (Except.ok.inj h)
    exact hd
  · obtain ⟨⟨k, after⟩, -, h⟩ := bind_eq_ok_iff.1 h
    dsimp only at h
    split at h
    · obtain ⟨⟨v, behind⟩, hvalue, h⟩ := bind_eq_ok_iff.1 h
      obtain ⟨d₁, hassign, hpair⟩ := map_eq_ok_iff.1 h
      obtain ⟨rfl, -⟩ := Prod.mk.inj hpair
      exact isDistinct_assign hd ((reads_distinct _).value hvalue) (orMalformed_eq_ok_iff.1 hassign)
    · cases h

theorem isDistinct_statements {bound : Nat} {t : Text} (hd : d.IsDistinct)
    (h : statements bound d t = .ok d') : d'.IsDistinct := by
  induction bound generalizing d t with
  | zero =>
    unfold statements at h
    cases h
  | succ bound ih =>
    unfold statements at h
    split at h
    · obtain rfl := Except.ok.inj h
      exact hd
    · exact ih hd h
    · obtain ⟨⟨d₁, after⟩, hstatement, h⟩ := bind_eq_ok_iff.1 h
      have hd₁ := isDistinct_statement hd hstatement
      obtain ⟨next, -, h⟩ := bind_eq_ok_iff.1 h
      split at h
      · obtain rfl := Except.ok.inj h
        exact hd₁
      · exact ih hd₁ h
      · cases h

/-- No table of a document that was read has a name twice. -/
theorem hasDistinctNames_of_parse {t : Text} (h : parse t = .ok fs) :
    HasDistinctNames (.table fs) := by
  obtain ⟨d, hd, rfl⟩ := map_eq_ok_iff.1 h
  have hstart : Document.start.IsDistinct := HasDistinctNames.empty
  exact isDistinct_statements hstart hd

end Toml

end CommitCheck
