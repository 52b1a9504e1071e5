import Mathlib.Data.List.Perm.Basic

/-!
# Lists that are read item by item

`as.mapM f` reads the items of `as` one after another with `f`, which may refuse one.

* `mapM_eq_ok_iff`: it succeeds exactly if every item is read, and gives what they are read as.
* `mapM_eq_error_iff`: it fails exactly as the first item does that is refused.
* `mapM_of_perm`: if all items are read, then in any other order as well.
-/

namespace StorageTopology

theorem exists_partner {α β : Type} {R : α → β → Prop} {as : List α} {bs : List β}
    (h : List.Forall₂ R as bs) {a : α} (ha : a ∈ as) : ∃ b ∈ bs, R a b := by
  induction h with
  | nil => cases ha
  | cons hfirst _ ih =>
    rcases List.mem_cons.mp ha with rfl | ha
    · exact ⟨_, List.mem_cons_self, hfirst⟩
    · obtain ⟨b, hb, hab⟩ := ih ha
      exact ⟨b, .tail _ hb, hab⟩

theorem map_eq_map_of_forall₂ {α β γ : Type} {f : α → γ} {g : β → γ} {as : List α} {bs : List β}
    (h : List.Forall₂ (fun a b => f a = g b) as bs) : as.map f = bs.map g :=
  List.forall₂_eq_eq_eq ▸ List.forall₂_map_left_iff.mpr (List.forall₂_map_right_iff.mpr h)

variable {ε α β : Type} {f : α → Except ε β}

/-- One reading after another succeeds only if both do. -/
theorem exists_of_bind_eq_ok {x : Except ε α} {b : β} (h : x >>= f = .ok b) :
    ∃ a, x = .ok a ∧ f a = .ok b := by
  cases x with
  | error cause => cases h
  | ok a => exact ⟨a, rfl, h⟩

/-- A list is read item by item. -/
theorem forall₂_of_mapM : ∀ {as : List α} {bs : List β},
    as.mapM f = .ok bs → List.Forall₂ (fun a b => f a = .ok b) as bs
  | [], bs, h => by
    obtain rfl : [] = bs := Except.ok.inj h
    exact .nil
  | a :: as, bs, h => by
    rw [List.mapM_cons] at h
    obtain ⟨b, hfirst, h⟩ := exists_of_bind_eq_ok h
    obtain ⟨bs', hrest, h⟩ := exists_of_bind_eq_ok h
    obtain rfl := Except.ok.inj h
    exact .cons hfirst (forall₂_of_mapM hrest)

theorem mapM_eq_ok_iff {as : List α} {bs : List β} :
    as.mapM f = .ok bs ↔ List.Forall₂ (fun a b => f a = .ok b) as bs := by
  refine ⟨forall₂_of_mapM, fun h => ?_⟩
  induction h with
  | nil => rfl
  | cons hfirst _ ih =>
    rw [List.mapM_cons, hfirst, ih]
    rfl

theorem mem_of_mapM_eq_ok {as : List α} {bs : List β} {b : β} (h : as.mapM f = .ok bs) :
    b ∈ bs ↔ ∃ a ∈ as, f a = .ok b := by
  have hall := forall₂_of_mapM h
  constructor
  · exact fun hb => exists_partner hall.flip hb
  · rintro ⟨a, ha, hab⟩
    obtain ⟨c, hc, hac⟩ := exists_partner hall ha
    rwa [Except.ok.inj (hab.symm.trans hac)]

/-- **The first item that is refused** decides how reading fails. -/
theorem mapM_eq_error_iff {e : ε} : ∀ {as : List α},
    as.mapM f = .error e ↔
      ∃ before a after, as = before ++ a :: after ∧ (∀ b ∈ before, ∃ c, f b = .ok c) ∧
        f a = .error e
  | [] => by simp [pure, Except.pure]
  | a :: as => by
    rw [List.mapM_cons]
    cases hfirst : f a with
    | error cause =>
      constructor
      · rintro ⟨⟩
        exact ⟨[], a, as, rfl, nofun, hfirst⟩
      · rintro ⟨_ | ⟨b, before⟩, c, after, hsplit, hbefore, hrefused⟩
        · obtain ⟨rfl, -⟩ := List.cons.inj hsplit
          obtain rfl := Except.error.inj (hfirst.symm.trans hrefused)
          rfl
        · obtain ⟨rfl, -⟩ := List.cons.inj hsplit
          obtain ⟨d, hd⟩ := hbefore a List.mem_cons_self
          exact absurd (hfirst.symm.trans hd) nofun
    | ok d =>
      have hrest : (do let bs ← as.mapM f; pure (d :: bs) : Except ε (List β)) = .error e ↔
          as.mapM f = .error e := by
        cases as.mapM f <;> simp [bind, Except.bind, pure, Except.pure]
      refine Iff.trans hrest (mapM_eq_error_iff.trans ⟨?_, ?_⟩)
      · rintro ⟨before, c, after, rfl, hbefore, hrefused⟩
        refine ⟨a :: before, c, after, rfl, fun b hb => ?_, hrefused⟩
        rcases List.mem_cons.mp hb with rfl | hb
        · exact ⟨d, hfirst⟩
        · exact hbefore b hb
      · rintro ⟨_ | ⟨b, before⟩, c, after, hsplit, hbefore, hrefused⟩
        · obtain ⟨rfl, -⟩ := List.cons.inj hsplit
          exact absurd (hfirst.symm.trans hrefused) nofun
        · obtain ⟨rfl, rfl⟩ := List.cons.inj hsplit
          exact ⟨before, c, after, rfl, fun b hb => hbefore b (.tail _ hb), hrefused⟩

/-- Reading fails exactly if some item is refused. -/
theorem exists_mapM_error_iff {as : List α} :
    (∃ e, as.mapM f = .error e) ↔ ∃ a ∈ as, ∃ e, f a = .error e := by
  constructor
  · rintro ⟨e, he⟩
    obtain ⟨before, a, after, rfl, -, hrefused⟩ := mapM_eq_error_iff.mp he
    exact ⟨a, by simp, e, hrefused⟩
  · rintro ⟨a, ha, e, hrefused⟩
    cases hall : as.mapM f with
    | error cause => exact ⟨cause, rfl⟩
    | ok bs =>
      obtain ⟨b, -, hb⟩ := exists_partner (mapM_eq_ok_iff.mp hall) ha
      exact absurd (hrefused.symm.trans hb) nofun

/-- Items that are all read are read in any other order. -/
theorem mapM_of_perm {as as' : List α} {bs : List β} (hperm : as'.Perm as)
    (h : as.mapM f = .ok bs) : ∃ bs', as'.mapM f = .ok bs' ∧ bs'.Perm bs := by
  obtain ⟨bs', hbs', hperm'⟩ := List.perm_comp_forall₂ hperm (mapM_eq_ok_iff.mp h)
  exact ⟨bs', mapM_eq_ok_iff.mpr hbs', hperm'⟩

end StorageTopology
