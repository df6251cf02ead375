import CommitCheck.Version.Basic

/-!
# The order of versions

Versions are compared by their parts: the epoch, the release without zeros at its
end, the phase before the release, the correction after it, the state of
development and the build.  Without a phase a version comes after those with one,
except that a mere state of development comes before them.  `key` turns these
rules into lists of numbers, which are compared from the left.

The order is total up to versions of the same key (`cmp_swap`, `cmp_trans`).
-/

namespace CommitCheck.Version

/-- A list of numbers without the zeros at its end. -/
def withoutZeros : List Nat → List Nat
  | [] => []
  | n :: ns => match withoutZeros ns with
      | [] => if n = 0 then [] else [n]
      | m :: ms => n :: m :: ms
termination_by structural ns => ns

/-- The rank of a phase. -/
def Phase.rank : Phase → Nat
  | .alpha => 1
  | .beta => 2
  | .candidate => 3

/-- The key of the phase before a release. -/
def preKey (v : Version) : List Nat :=
  match v.pre with
  | some (p, n) => [Phase.rank p, n]
  | none => if v.post.isNone && v.dev.isSome then [0] else [4]

/-- The key of the correction after a release. -/
def postKey (v : Version) : List Nat :=
  match v.post with
  | none => [0]
  | some n => [1, n]

/-- The key of the state of development. -/
def devKey (v : Version) : List Nat :=
  match v.dev with
  | some n => [0, n]
  | none => [1]

/-- The key of a part of the name of a build.  Words come before numbers. -/
def BuildPart.key : BuildPart → List Nat
  | .word t => 0 :: t.map Char.toNat
  | .number n => [1, n]

/-- The key of a version. -/
def key (v : Version) : List (List (List Nat)) :=
  [[[v.epoch]], [withoutZeros v.release], [v.preKey], [v.postKey], [v.devKey],
    v.build.map BuildPart.key]

/-- The order of keys: each list from the left, and a list after its beginnings. -/
def compareKeys : List (List (List Nat)) → List (List (List Nat)) → Ordering :=
  List.compareLex (List.compareLex (List.compareLex compare))

instance : Std.TransCmp compareKeys :=
  inferInstanceAs (Std.TransCmp (List.compareLex (List.compareLex (List.compareLex compare))))

/-- The order of versions. -/
def cmp (v w : Version) : Ordering := compareKeys v.key w.key

instance : Std.TransCmp cmp where
  eq_swap {v w} := @Std.OrientedCmp.eq_swap _ compareKeys _ v.key w.key
  isLE_trans {u v w} := @Std.TransCmp.isLE_trans _ compareKeys _ u.key v.key w.key

/-- Whether a version comes after another. -/
def isAfter (v w : Version) : Bool := cmp v w == .gt

theorem cmp_swap {v w : Version} : cmp v w = .gt ↔ cmp w v = .lt :=
  Std.OrientedCmp.gt_iff_lt

theorem cmp_trans {u v w : Version} (h : cmp u v = .gt) (h' : cmp v w = .gt) : cmp u w = .gt :=
  Std.TransCmp.gt_trans h h'

example : (parse? "1.0").map (fun v => (parse? "1.0rc1").map (isAfter v)) = some (some true) := by
  decide
example : (parse? "1.0.dev1").map (fun v => (parse? "1a0").map (cmp v)) = some (some .lt) := by
  decide
example : (parse? "1.0+1.10").map (fun v => (parse? "1+1.2").map (cmp v)) = some (some .gt) := by
  decide

end CommitCheck.Version
