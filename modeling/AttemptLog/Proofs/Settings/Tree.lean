import AttemptLog.Settings.Load
import Mathlib.Tactic
/-!
What setting a path of a tree changes.

A text that is set at a path is found there (`at?_set_text`), and at a path that does not lie on the way to another
one or below it nothing changes (`at?_set_of_apart`). Members are set one after another, in an order that nobody
knows. If of any two members one passes a path by, what stands at the path is the same in any order
(`at?_addAll_perm`); this rests on what stands at a path after a member depending on nothing but what stood there
(`at?_setNamed_congr`). Setting the tables of a file makes the very tree that stands in the file, if it has each name
once (`addAll_eq`).
-/
namespace AttemptLog

namespace Setting

/-- neither of two paths leads on from the other -/
def Apart (a b : List String) : Prop := ¬ a <+: b ∧ ¬ b <+: a

instance (a b : List String) : Decidable (Apart a b) := inferInstanceAs (Decidable (_ ∧ _))

theorem Apart.of_cons {name : String} {a b : List String} (h : Apart (name :: a) (name :: b)) : Apart a b :=
  ⟨fun hab => h.1 (List.cons_prefix_cons.2 ⟨rfl, hab⟩), fun hba => h.2 (List.cons_prefix_cons.2 ⟨rfl, hba⟩)⟩

theorem member?_putMember (name other : String) (value : Setting) (members : List (String × Setting)) :
    (table (putMember name value members)).member? other =
      if name = other then some value else (table members).member? other := by
  induction members with
  | nil => by_cases hname : name = other <;> simp [member?, Setting.members, putMember, hname]
  | cons entry members ih =>
    simp only [member?, Setting.members] at ih ⊢
    unfold putMember
    split_ifs with hentry hname hname
    · simp [hname]
    · simp [hentry, hname]
    · have hother : entry.1 ≠ other := fun hother => hentry (hother.trans hname.symm)
      rw [List.find?_cons_of_neg (by simpa using hother), ih, if_pos hname]
    · by_cases hother : entry.1 = other <;> simp [hother, ih, hname]

theorem mem_putMember {name : String} {value : Setting} {members : List (String × Setting)} {entry : String × Setting}
    (h : entry ∈ putMember name value members) : entry = (name, value) ∨ entry ∈ members := by
  induction members with
  | nil => exact .inl (List.mem_singleton.1 h)
  | cons first members ih =>
    unfold putMember at h
    split_ifs at h
    · exact (List.mem_cons.1 h).imp_right (List.mem_cons_of_mem _)
    · rcases List.mem_cons.1 h with rfl | hrest
      · exact .inr List.mem_cons_self
      · exact (ih hrest).imp_right (List.mem_cons_of_mem _)

theorem nodup_putMember {name : String} {value : Setting} {members : List (String × Setting)}
    (h : (members.map (·.1)).Nodup) : ((putMember name value members).map (·.1)).Nodup := by
  induction members with
  | nil => exact List.nodup_singleton _
  | cons first members ih =>
    obtain ⟨hfirst, hmembers⟩ := List.nodup_cons.1 h
    unfold putMember
    split_ifs with hname
    · exact List.nodup_cons.2 ⟨hname ▸ hfirst, hmembers⟩
    · refine List.nodup_cons.2 ⟨fun hput => ?_, ih hmembers⟩
      obtain ⟨entry, hentry, hentryName⟩ := List.mem_map.1 hput
      rcases mem_putMember hentry with rfl | hold
      · exact hname hentryName.symm
      · exact hfirst (hentryName ▸ List.mem_map_of_mem hold)

theorem find?_of_not_mem {name : String} {members : List (String × Setting)} (h : name ∉ members.map (·.1)) :
    (members.find? fun entry => entry.1 == name) = none := by
  refine List.find?_eq_none.2 fun entry hentry hname => h ?_
  exact eq_of_beq hname ▸ List.mem_map_of_mem hentry

theorem set_cons (name : String) (path : List String) (value : Setting) (old : Option Setting) :
    set (name :: path) value old =
      table (putMember name (set path value (old.bind (member? name))) ((old.map members).getD [])) := by
  cases old with
  | none => rfl
  | some old => rfl

theorem member?_set_cons (name other : String) (path : List String) (value : Setting) (old : Option Setting) :
    (set (name :: path) value old).member? other =
      if name = other then some (set path value (old.bind (member? name))) else old.bind (member? other) := by
  rw [set_cons, member?_putMember]
  cases old with
  | none => rfl
  | some old => rfl

theorem at?_set_text (path : List String) (value : String) (old : Option Setting) :
    (set path (.text value) old).at? path = some (.text value) := by
  induction path generalizing old with
  | nil => rfl
  | cons name path ih => rw [at?, member?_set_cons, if_pos rfl, Option.bind_some, ih]

theorem at?_set_of_apart {path other : List String} (h : Apart path other) (value : Setting) (old : Option Setting) :
    (set path value old).at? other = old.bind (at? other) := by
  induction path generalizing other old with
  | nil => exact absurd List.nil_prefix h.1
  | cons name path ih =>
    cases other with
    | nil => exact absurd List.nil_prefix h.2
    | cons first other =>
      rw [at?, member?_set_cons]
      split_ifs with hname
      · subst hname
        rw [Option.bind_some, ih h.of_cons, Option.bind_assoc]
        rfl
      · rw [Option.bind_assoc]
        rfl

/-! ## Names -/

/-- the path that a name stands for, and whether it ends at a place in an array -/
def placeOf (name : String) : List String × Bool :=
  (readPath? (name.length + 1) ('.' :: name.toList)).getD ([name], false)

theorem setNamed_eq (tree : Setting) (name : String) (value : Setting) :
    tree.setNamed name value = set (placeOf name).1 (if (placeOf name).2 then .array else value) (some tree) := by
  unfold setNamed placeOf
  split
  · next names hasPlace hread => rw [hread, Option.getD_some]
  · next hread =>
    rw [hread, Option.getD_none]
    rfl

/-! ## What stood at a path before -/

theorem at?_merge_congr (path : List String) (value : Setting) {old other : Option Setting}
    (h : old.bind (at? path) = other.bind (at? path)) : (merge old value).at? path = (merge other value).at? path := by
  induction path generalizing value old other with
  | nil => rw [show old = other by simpa [at?] using h]
  | cons name path ih =>
    cases value with
    | table incoming =>
      -- members that are merged in change what is below the name step by step, each in the same way on both sides
      have hmembers : ∀ olds others : List (String × Setting),
          ((table olds).member? name).bind (at? path) = ((table others).member? name).bind (at? path) →
          ((table (mergeMembers olds incoming)).member? name).bind (at? path) =
            ((table (mergeMembers others incoming)).member? name).bind (at? path) := by
        induction incoming with
        | nil => simp only [mergeMembers, imp_self, implies_true]
        | cons member incoming hincoming =>
          intro olds others hsame
          rw [mergeMembers, mergeMembers]
          refine hincoming _ _ ?_
          rw [member?_putMember, member?_putMember]
          split_ifs with hname
          · subst hname
            exact ih member.2 hsame
          · exact hsame
      have hinner : ∀ setting : Option Setting,
          (table ((setting.map members).getD [])).member? name = setting.bind (member? name) := by
        rintro (_ | setting) <;> rfl
      rw [merge, merge]
      refine hmembers _ _ ?_
      rw [hinner, hinner, Option.bind_assoc, Option.bind_assoc]
      exact h
    | _ => rfl

theorem at?_set_congr (path : List String) (value : Setting) {place : List String} {old other : Option Setting}
    (h : old.bind (at? place) = other.bind (at? place)) :
    (set path value old).at? place = (set path value other).at? place := by
  induction path generalizing place old other with
  | nil => exact at?_merge_congr place value h
  | cons name path ih =>
    cases place with
    | nil => rw [show old = other by simpa [at?] using h]
    | cons first place =>
      have hbelow : ∀ setting : Option Setting,
          (setting.bind (member? first)).bind (at? place) = setting.bind (at? (first :: place)) :=
        fun setting => Option.bind_assoc ..
      rw [at?, at?, member?_set_cons, member?_set_cons]
      split_ifs with hname
      · subst hname
        exact ih ((hbelow old).trans (h.trans (hbelow other).symm))
      · exact (hbelow old).trans (h.trans (hbelow other).symm)

theorem at?_setNamed_congr {path : List String} {tree other : Setting} (h : tree.at? path = other.at? path)
    (member : String × Setting) :
    (tree.setNamed member.1 member.2).at? path = (other.setNamed member.1 member.2).at? path := by
  rw [setNamed_eq, setNamed_eq]
  exact at?_set_congr _ _ h

/-! ## Members in any order -/

/-- does setting a member change nothing at a path, whatever stands there -/
def PassesBy (member : String × Setting) (path : List String) : Prop :=
  ∀ tree : Setting, (tree.setNamed member.1 member.2).at? path = tree.at? path

theorem passesBy_of_apart {member : String × Setting} {path : List String} (h : Apart (placeOf member.1).1 path) :
    PassesBy member path := by
  intro tree
  rw [setNamed_eq, at?_set_of_apart h]
  rfl

theorem at?_addAll_congr {path : List String} (members : List (String × Setting)) {tree other : Setting}
    (h : tree.at? path = other.at? path) : (addAll members tree).at? path = (addAll members other).at? path := by
  induction members generalizing tree other with
  | nil => exact h
  | cons member members ih => exact ih (at?_setNamed_congr h member)

/-- **The order in which members are set does not matter at a path,** if of any two of them one passes it by. -/
theorem at?_addAll_perm {path : List String} {members others : List (String × Setting)} (hperm : members.Perm others)
    (hpass : members.Pairwise fun a b => PassesBy a path ∨ PassesBy b path) {tree other : Setting}
    (h : tree.at? path = other.at? path) : (addAll members tree).at? path = (addAll others other).at? path := by
  induction hperm generalizing tree other with
  | nil => exact h
  | cons member _ ih => exact ih (List.pairwise_cons.1 hpass).2 (at?_setNamed_congr h member)
  | swap first second members =>
    refine at?_addAll_congr members ?_
    have hfirst := at?_setNamed_congr h first
    have hsecond := at?_setNamed_congr h second
    rcases (List.pairwise_cons.1 hpass).1 first List.mem_cons_self with hpasses | hpasses
    · exact (at?_setNamed_congr (hpasses tree) first).trans (hfirst.trans (hpasses _).symm)
    · exact (hpasses _).trans (hsecond.trans (at?_setNamed_congr (hpasses other).symm second))
  | trans hfirst _ ihfirst ihsecond =>
    have hswap : ∀ a b : String × Setting, PassesBy a path ∨ PassesBy b path → PassesBy b path ∨ PassesBy a path :=
      fun _ _ => Or.symm
    exact (ihfirst hpass h).trans (ihsecond ((hfirst.pairwise_iff (hswap _ _)).1 hpass) rfl)

/-- of members with different names one at most has the name of a path, and if the others are apart from it, it is the
one that counts -/
theorem at?_addAll {path : List String} {name : String} (hpath : placeOf name = (path, false))
    {members : List (String × Setting)} (hnames : (members.map (·.1)).Nodup)
    (h : ∀ member ∈ members, (∃ value, member = (name, .text value)) ∨ Apart (placeOf member.1).1 path)
    (tree : Setting) : (addAll members tree).at? path = ((table members).member? name <|> tree.at? path) := by
  induction members generalizing tree with
  | nil => rfl
  | cons member members ih =>
    obtain ⟨hmember, hmembers⟩ := List.forall_mem_cons.1 h
    obtain ⟨hnew, hnodup⟩ := List.nodup_cons.1 hnames
    refine (ih hnodup hmembers (tree.setNamed member.1 member.2)).trans ?_
    rcases hmember with ⟨value, rfl⟩ | hapart
    · have hnone : (table members).member? name = none := by
        rw [member?, Setting.members, find?_of_not_mem hnew, Option.map_none]
      rw [hnone, setNamed_eq, hpath]
      simp [member?, Setting.members, at?_set_text]
    · have hname : member.1 ≠ name := by
        rintro rfl
        rw [hpath] at hapart
        exact hapart.1 List.prefix_rfl
      rw [passesBy_of_apart hapart tree]
      simp [member?, Setting.members, hname]

/-! ## Trees in which each name stands once -/

/-- no table of a tree has two members of one name -/
inductive Once : Setting → Prop where
  | text (value : String) : Once (.text value)
  | integer (value : Int) : Once (.integer value)
  | fraction (value : Double) : Once (.fraction value)
  | truth (value : Bool) : Once (.truth value)
  | array : Once .array
  | table {members : List (String × Setting)} (hnames : (members.map (·.1)).Nodup)
    (hmembers : ∀ member ∈ members, Once member.2) : Once (.table members)

theorem putMember_of_not_mem {name : String} {members : List (String × Setting)} (h : name ∉ members.map (·.1))
    (value : Setting) : putMember name value members = members ++ [(name, value)] := by
  induction members with
  | nil => rfl
  | cons entry members ih =>
    obtain ⟨hentry, hmembers⟩ := not_or.1 (mt List.mem_cons.2 h)
    rw [putMember, if_neg (Ne.symm hentry), ih hmembers, List.cons_append]

theorem mergeMembers_eq {olds news : List (String × Setting)} (hnames : ((olds ++ news).map (·.1)).Nodup)
    (hnews : ∀ member ∈ news, merge none member.2 = member.2) : mergeMembers olds news = olds ++ news := by
  induction news generalizing olds with
  | nil => rw [mergeMembers, List.append_nil]
  | cons member news ih =>
    obtain ⟨name, value⟩ := member
    obtain ⟨hvalue, hrest⟩ := List.forall_mem_cons.1 hnews
    have hnew : name ∉ olds.map (·.1) := by
      rw [List.map_append, List.map_cons, List.nodup_middle, List.nodup_cons] at hnames
      exact fun hold => hnames.1 (List.mem_append_left _ hold)
    rw [List.append_cons] at hnames
    rw [mergeMembers, find?_of_not_mem hnew, Option.map_none, hvalue, putMember_of_not_mem hnew, ih hnames hrest,
      ← List.append_cons]

theorem Once.merge_none {setting : Setting} (h : setting.Once) : merge none setting = setting := by
  induction h with
  | @table members hnames _ ih =>
    rw [merge]
    exact congrArg Setting.table (mergeMembers_eq hnames ih)
  | _ => rfl

/-- a name that is a path by itself -/
def IsPlain (name : String) : Prop := name ≠ "" ∧ ∀ c ∈ name.toList, isPathChar c = true

instance (name : String) : Decidable (IsPlain name) :=
  decidable_of_iff (name ≠ "" ∧ name.toList.all isPathChar = true) (by rw [IsPlain, List.all_eq_true])

theorem placeOf_of_isPlain {name : String} (h : IsPlain name) : placeOf name = ([name], false) := by
  have htake : (name.toList ++ []).takeWhile isPathChar = name.toList ++ [] := List.takeWhile_append_of_pos h.2
  have hdrop : (name.toList ++ []).dropWhile isPathChar = [] := List.dropWhile_append_of_pos h.2
  rw [List.append_nil] at htake hdrop
  simp [placeOf, readPath?, htake, hdrop, h.1]

theorem addAll_eq_mergeMembers {members olds : List (String × Setting)}
    (hplain : ∀ member ∈ members, IsPlain member.1) :
    addAll members (.table olds) = .table (mergeMembers olds members) := by
  induction members generalizing olds with
  | nil => rw [mergeMembers]; rfl
  | cons member members ih =>
    obtain ⟨name, value⟩ := member
    obtain ⟨hname, hrest⟩ := List.forall_mem_cons.1 hplain
    have hset : (table olds).setNamed name value = set [name] value (some (.table olds)) := by
      rw [setNamed_eq, placeOf_of_isPlain hname]
      rfl
    rw [mergeMembers, ← ih hrest]
    exact congrArg (addAll members) hset

/-- **The tree of a file is what stands in the file,** if its tables have plain names. -/
theorem addAll_eq {members : List (String × Setting)} (h : (table members).Once)
    (hplain : ∀ member ∈ members, IsPlain member.1) : addAll members (.table []) = .table members := by
  have hmerged := h.merge_none
  rw [merge] at hmerged
  exact (addAll_eq_mergeMembers hplain).trans hmerged

end Setting

end AttemptLog
