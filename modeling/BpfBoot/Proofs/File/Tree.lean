import BpfBoot.File.System

/-!
# Look-ups in a growing tree

A look-up that succeeds goes from name to name through entries that are there, and ends at an entry or at one
name that is missing in a directory. So it takes the same way in every tree in which all of these entries still
stand, and where it ended at a missing name it ends at the entry that was put there.
-/

namespace BpfBoot

namespace FileTree

variable {t t' : FileTree}

theorem get?_insert (t : FileTree) (key : Key) (entry : Entry) (k : Key) :
    (t.insert key entry).get? k = if k = key then some entry else t.get? k := by
  unfold insert
  by_cases hany : t.entries.any (·.1 == key) = true
  · -- The keys of the entries stay as they are, so that the same one is found.
    have hkeys : ((fun x : Key × Entry => x.1 == k) ∘ fun x => if x.1 == key then (x.1, entry) else x)
        = fun x => x.1 == k := by
      funext x
      by_cases hx : x.1 = key <;> simp [hx]
    rw [if_pos hany, get?, List.find?_map, hkeys]
    by_cases hk : k = key
    · subst hk
      obtain ⟨x, hx, hxk⟩ := List.any_eq_true.mp hany
      cases hfind : t.entries.find? (·.1 == k) with
      | none => exact absurd hxk (List.find?_eq_none.mp hfind x hx)
      | some found =>
        have hfound : found.1 = k := by simpa using List.find?_some hfind
        simp [hfound]
    · cases hfind : t.entries.find? (·.1 == k) with
      | none => simp [get?, hfind, hk]
      | some found =>
        have hfound : found.1 = k := by simpa using List.find?_some hfind
        simp [get?, hfind, hfound, hk]
  · have hnone : t.entries.find? (·.1 == key) = none := by
      rw [List.find?_eq_none]
      intro x hx hxk
      exact hany (List.any_eq_true.mpr ⟨x, hx, hxk⟩)
    rw [if_neg hany, get?, List.find?_append]
    by_cases hk : k = key
    · subst hk
      simp [hnone]
    · have hlast : [(key, entry)].find? (·.1 == k) = none := by simpa using Ne.symm hk
      rw [hlast, Option.or_none, if_neg hk]
      rfl

theorem get?_erase {key k : Key} (h : k ≠ key) : (t.erase key).get? k = t.get? k := by
  have hkept : (t.entries.filter (·.1 != key)).find? (·.1 == k) = t.entries.find? (·.1 == k) := by
    rw [List.find?_filter]
    congr
    funext x
    by_cases hx : x.1 = k <;> simp [hx, h]
  rw [erase, get?, hkept, get?]

theorem get?_foldl_erase {k : Key} {keys : List Key} (h : k ∉ keys) :
    (keys.foldl erase t).get? k = t.get? k := by
  induction keys generalizing t with
  | nil => rfl
  | cons key keys ih =>
    rw [List.mem_cons, not_or] at h
    rw [List.foldl_cons, ih h.2, get?_erase h.1]

/-! ## Growing trees -/

/-- All that stands in a tree stands in the other one as it is. -/
def IsWithin (t t' : FileTree) : Prop :=
  ∀ key entry, t.get? key = some entry → t'.get? key = some entry

theorem IsWithin.refl (t : FileTree) : t.IsWithin t :=
  fun _ _ h => h

theorem IsWithin.trans {t'' : FileTree} (h : t.IsWithin t') (h' : t'.IsWithin t'') : t.IsWithin t'' :=
  fun key entry hentry => h' key entry (h key entry hentry)

theorem isWithin_insert {key : Key} (entry : Entry) (h : t.get? key = none) :
    t.IsWithin (t.insert key entry) := by
  intro k e hk
  rw [get?_insert, if_neg]
  · exact hk
  · rintro rfl
    rw [h] at hk
    cases hk

/-! ## The ways of a look-up -/

/-- The name is one that a directory can hold. -/
def IsProper (name : Name) : Prop :=
  name ≠ Path.dot ∧ name ≠ Path.dotDot ∧ name.length ≤ maxNameLength

/-- Where names lead from a directory, by the entries on the way. -/
inductive Leads (t : FileTree) (followLast : Bool) : Bool → Nat → Key → List Name → Place → Prop where
  | here {needDirectory links dir entry} :
      t.get? dir = some entry → Leads t followLast needDirectory links dir [] (.present dir entry)
  | stay {needDirectory links dir rest place} :
      Leads t followLast needDirectory links dir rest place →
      Leads t followLast needDirectory links dir (Path.dot :: rest) place
  | up {needDirectory links dir rest place} :
      Leads t followLast needDirectory links dir.dropLast rest place →
      Leads t followLast needDirectory links dir (Path.dotDot :: rest) place
  | down {needDirectory links dir name rest mode place} :
      IsProper name → t.get? (dir ++ [name]) = some (.directory mode) →
      Leads t followLast needDirectory links (dir ++ [name]) rest place →
      Leads t followLast needDirectory links dir (name :: rest) place
  | missing {needDirectory links dir name} :
      IsProper name → t.get? (dir ++ [name]) = none →
      Leads t followLast needDirectory links dir [name] (.absent dir name)
  | file {links dir name mode data} :
      IsProper name → t.get? (dir ++ [name]) = some (.file mode data) →
      Leads t followLast false links dir [name] (.present (dir ++ [name]) (.file mode data))
  | link {links dir name target} :
      IsProper name → t.get? (dir ++ [name]) = some (.symlink target) → followLast = false →
      Leads t followLast false links dir [name] (.present (dir ++ [name]) (.symlink target))
  | follow {needDirectory links dir name rest target place} :
      IsProper name → t.get? (dir ++ [name]) = some (.symlink target) →
      (rest.isEmpty && !followLast && !needDirectory) = false →
      Leads t followLast (needDirectory || (rest.isEmpty && Path.endsWithSlash ⟨target⟩)) links
        (if Path.isAbsolute ⟨target⟩ then [] else dir) (Path.names ⟨target⟩ ++ rest) place →
      Leads t followLast needDirectory (links + 1) dir (name :: rest) place

variable {followLast needDirectory : Bool} {links : Nat} {dir : Key} {todo : List Name}

theorem leads_of_walk {place : Place}
    (h : t.walk followLast needDirectory links dir todo = .ok place) :
    Leads t followLast needDirectory links dir todo place := by
  have hproper {name : Name} (hdot : ¬ (name == Path.dot) = true)
      (hdotDot : ¬ (name == Path.dotDot) = true) (hlength : ¬ maxNameLength < name.length) :
      IsProper name :=
    ⟨by simpa using hdot, by simpa using hdotDot, by omega⟩
  fun_induction walk t followLast needDirectory links dir todo generalizing place with
  | case1 needDirectory links dir entry hentry =>
    cases h
    exact .here hentry
  | case3 needDirectory links dir name rest hdot ih =>
    obtain rfl := eq_of_beq hdot
    exact .stay (ih h)
  | case4 needDirectory links dir name rest _ hdotDot ih =>
    obtain rfl := eq_of_beq hdotDot
    exact .up (ih h)
  | case6 needDirectory links dir name rest hdot hdotDot hlength key hnone =>
    rename_i hrest
    obtain rfl := List.isEmpty_iff.mp hrest
    cases h
    exact .missing (hproper hdot hdotDot hlength) hnone
  | case8 needDirectory links dir name rest hdot hdotDot hlength key mode hentry =>
    rename_i ih
    exact .down (hproper hdot hdotDot hlength) hentry (ih h)
  | case9 needDirectory links dir name rest hdot hdotDot hlength key mode data hentry =>
    rename_i hlast
    simp only [Bool.and_eq_true, List.isEmpty_iff, Bool.not_eq_true'] at hlast
    obtain ⟨rfl, rfl⟩ := hlast
    cases h
    exact .file (hproper hdot hdotDot hlength) hentry
  | case11 needDirectory links dir name rest hdot hdotDot hlength key target hentry =>
    rename_i hlast
    simp only [Bool.and_eq_true, List.isEmpty_iff, Bool.not_eq_true'] at hlast
    obtain ⟨⟨rfl, hfollow⟩, rfl⟩ := hlast
    cases h
    exact .link (hproper hdot hdotDot hlength) hentry hfollow
  | case13 needDirectory dir name rest hdot hdotDot hlength key target hentry hlast links path =>
    rename_i ih
    exact .follow (hproper hdot hdotDot hlength) hentry (by simpa using hlast) (ih h)
  | case2 | case5 | case7 | case10 | case12 => cases h

theorem walk_of_isProper {name : Name} (h : IsProper name) (rest : List Name) :
    t.walk followLast needDirectory links dir (name :: rest)
      = match t.get? (dir ++ [name]) with
        | none => if rest.isEmpty then .ok (.absent dir name) else .error .enoent
        | some (.directory _) => t.walk followLast needDirectory links (dir ++ [name]) rest
        | some (.file mode data) =>
            if rest.isEmpty && !needDirectory then .ok (.present (dir ++ [name]) (.file mode data))
            else .error .enotdir
        | some (.symlink target) =>
            if rest.isEmpty && !followLast && !needDirectory then
              .ok (.present (dir ++ [name]) (.symlink target))
            else
              match links with
              | 0 => .error .eloop
              | links + 1 =>
                  t.walk followLast (needDirectory || (rest.isEmpty && Path.endsWithSlash ⟨target⟩))
                    links (if Path.isAbsolute ⟨target⟩ then [] else dir)
                    (Path.names ⟨target⟩ ++ rest) := by
  obtain ⟨hdot, hdotDot, hlength⟩ := h
  rw [walk, if_neg (by simpa using hdot), if_neg (by simpa using hdotDot)]
  exact if_neg (Nat.not_lt.mpr hlength)

theorem Leads.walk_eq {place : Place} (h : Leads t followLast needDirectory links dir todo place) :
    t.walk followLast needDirectory links dir todo = .ok place := by
  induction h with
  | here hentry => rw [walk, hentry]
  | stay _ ih => rw [walk, if_pos (by rfl), ih]
  | up _ ih => rw [walk, if_neg (by decide), if_pos (by rfl), ih]
  | down hproper hentry _ ih =>
    rw [walk_of_isProper hproper, hentry]
    exact ih
  | missing hproper hnone =>
    rw [walk_of_isProper hproper, hnone]
    rfl
  | file hproper hentry =>
    rw [walk_of_isProper hproper, hentry]
    rfl
  | link hproper hentry hfollow =>
    rw [walk_of_isProper hproper, hentry, hfollow]
    rfl
  | follow hproper hentry hlast _ ih =>
    rw [walk_of_isProper hproper, hentry]
    simp only [hlast, Bool.false_eq_true, if_false]
    exact ih

theorem walk_eq_ok_iff {place : Place} :
    t.walk followLast needDirectory links dir todo = .ok place
      ↔ Leads t followLast needDirectory links dir todo place :=
  ⟨leads_of_walk, Leads.walk_eq⟩

/-- No look-up is in the way of itself. -/
theorem walk_ne_eexist : t.walk followLast needDirectory links dir todo ≠ .error .eexist := by
  fun_induction walk t followLast needDirectory links dir todo with
  | case3 _ _ _ _ _ _ ih => exact ih
  | case4 _ _ _ _ _ _ _ ih => exact ih
  | case8 => assumption
  | case13 => assumption
  | case1 | case2 | case5 | case6 | case7 | case9 | case10 | case11 | case12 => nofun

/-! ## Look-ups in a tree that has grown -/

namespace Place

/-- The key of the entry that is there, or of the one that could be. -/
def key : Place → Key
  | present key _ => key
  | absent dir name => dir ++ [name]

end Place

theorem Leads.get?_eq_some {key : Key} {entry : Entry}
    (h : Leads t followLast needDirectory links dir todo (.present key entry)) :
    t.get? key = some entry := by
  generalize hplace : Place.present key entry = place at h
  induction h with
  | here hentry | file _ hentry | link _ hentry _ =>
    cases hplace
    exact hentry
  | stay _ ih | up _ ih | down _ _ _ ih | follow _ _ _ _ ih => exact ih hplace
  | missing => cases hplace

/-- Where a name is missing, nothing stands. -/
theorem Leads.get?_eq_none {key : Key} {name : Name}
    (h : Leads t followLast needDirectory links dir todo (.absent key name)) :
    t.get? (key ++ [name]) = none := by
  generalize hplace : Place.absent key name = place at h
  induction h with
  | missing hproper hnone =>
    cases hplace
    exact hnone
  | stay _ ih | up _ ih | down _ _ _ ih | follow _ _ _ _ ih => exact ih hplace
  | here | file | link => cases hplace

/-- What is found is found again, by the same way. -/
theorem Leads.of_isWithin (hwithin : t.IsWithin t') {key : Key} {entry : Entry}
    (h : Leads t followLast needDirectory links dir todo (.present key entry)) :
    Leads t' followLast needDirectory links dir todo (.present key entry) := by
  generalize hplace : Place.present key entry = place at h
  induction h with
  | here hentry => exact .here (hwithin _ _ hentry)
  | stay _ ih => exact .stay (ih hplace)
  | up _ ih => exact .up (ih hplace)
  | down hproper hentry _ ih => exact .down hproper (hwithin _ _ hentry) (ih hplace)
  | missing => cases hplace
  | file hproper hentry => exact .file hproper (hwithin _ _ hentry)
  | link hproper hentry hfollow => exact .link hproper (hwithin _ _ hentry) hfollow
  | follow hproper hentry hlast _ ih =>
    exact .follow hproper (hwithin _ _ hentry) hlast (ih hplace)

variable {followLast' needDirectory' : Bool}

theorem and_not_of_imp {rest : List Name} (hfollow : followLast = true → followLast' = true)
    (hneed : needDirectory = true → needDirectory' = true)
    (h : (rest.isEmpty && !followLast && !needDirectory) = false) :
    (rest.isEmpty && !followLast' && !needDirectory') = false := by
  cases followLast' <;> cases needDirectory' <;> simp_all

/-- A directory at the end of the way is found even by a look-up that asks for more. The directory may have
been put where a name was missing. -/
theorem Leads.of_directory (hwithin : t.IsWithin t')
    (hfollow : followLast = true → followLast' = true) {place : Place} {mode : Nat}
    (h : Leads t followLast needDirectory links dir todo place)
    (hdirectory : t'.get? place.key = some (.directory mode))
    (hneed : needDirectory = true → needDirectory' = true) :
    Leads t' followLast' needDirectory' links dir todo (.present place.key (.directory mode)) := by
  induction h generalizing needDirectory' with
  | here _ => exact .here hdirectory
  | stay _ ih => exact .stay (ih hdirectory hneed)
  | up _ ih => exact .up (ih hdirectory hneed)
  | down hproper hentry _ ih =>
    exact .down hproper (hwithin _ _ hentry) (ih hdirectory hneed)
  | missing hproper _ => exact .down hproper hdirectory (.here hdirectory)
  | file _ hentry =>
    have hfile := (hwithin _ _ hentry).symm.trans hdirectory
    cases hfile
  | link _ hentry _ =>
    have hlink := (hwithin _ _ hentry).symm.trans hdirectory
    cases hlink
  | follow hproper hentry hlast _ ih =>
    refine .follow hproper (hwithin _ _ hentry) (and_not_of_imp hfollow hneed hlast)
      (ih hdirectory ?_)
    simp only [Bool.or_eq_true]
    exact Or.imp_left hneed

/-- A file at the end of the way is all that a look-up finds that asks for more, if it does not insist on a
directory. -/
theorem Leads.walk_of_file (hfollow : followLast = true → followLast' = true)
    {key : Key} {mode : Nat} {data : Bytes}
    (h : Leads t followLast needDirectory links dir todo (.present key (.file mode data)))
    (hneed : needDirectory = true → needDirectory' = true) :
    t.walk followLast' needDirectory' links dir todo = .ok (.present key (.file mode data))
      ∨ t.walk followLast' needDirectory' links dir todo = .error .enotdir := by
  generalize hplace : Place.present key (.file mode data) = place at h
  induction h generalizing needDirectory' with
  | here hentry =>
    rw [walk, hentry]
    exact .inl rfl
  | stay _ ih =>
    rw [walk, if_pos (by rfl)]
    exact ih hneed hplace
  | up _ ih =>
    rw [walk, if_neg (by decide), if_pos (by rfl)]
    exact ih hneed hplace
  | down hproper hentry _ ih =>
    rw [walk_of_isProper hproper, hentry]
    exact ih hneed hplace
  | missing => cases hplace
  | file hproper hentry =>
    rw [walk_of_isProper hproper, hentry]
    cases needDirectory' with
    | false => exact .inl rfl
    | true => exact .inr rfl
  | link => cases hplace
  | follow hproper hentry hlast _ ih =>
    rw [walk_of_isProper hproper, hentry]
    simp only [and_not_of_imp hfollow hneed hlast, Bool.false_eq_true, if_false]
    refine ih ?_ hplace
    simp only [Bool.or_eq_true]
    exact Or.imp_left hneed

end FileTree

end BpfBoot
