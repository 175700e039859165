import RealTube.Model.HashPrefix
import RealTube.Votes.Counters
import Mathlib.Data.String.Basic

/-!
# Lookups by hash prefix and by id

The extension looks a video up by the first four digits of its hash. The prefix is always valid, and
reaches the database unchanged. What the query finds for it has the video asked for, if it is shown
at all, unless the limit of 1000 rows is in the way: the rows come in no particular order, so the
row is certain to be among them exactly when no more than 1000 videos that are shown have the same
prefix (`filter_answer_iff`).
-/

namespace RealTube

variable {sha256 : List UInt8 → Digest} {p : String} {v : VideoID} {db : DB}

/-- How many of the videos that are shown have the prefix. -/
def DB.visibleWithPrefix (sha256 : List UInt8 → Digest) (p : String) (db : DB) : ℕ :=
  db.videos.count fun v row ↦ row.visible ∧ matchesHashPrefix sha256 p v

/-- The rows with the prefix, before the limit. -/
theorem length_filter_matches (sha256 : List UInt8 → Digest) (p : String) (db : DB)
    (order : Arrangement VideoID) :
    ((db.videos.rows order (·.visible)).filter fun x ↦ matchesHashPrefix sha256 p x.1).length =
      db.visibleWithPrefix sha256 p := by
  have hlen := db.videos.length_filter_rows order (fun row ↦ row.visible) fun v _ ↦
    matchesHashPrefix sha256 p v
  simpa [DB.visibleWithPrefix] using hlen

/-- A row of a list without doubles is all there is of its key. -/
theorem filter_key_eq {K V : Type} [DecidableEq K] {k : K} {r : V} {xs : List (K × V)}
    (hxs : (xs.map Prod.fst).Nodup) (hmem : (k, r) ∈ xs) : xs.filter (·.1 = k) = [(k, r)] := by
  induction xs with
  | nil => exact absurd hmem List.not_mem_nil
  | cons x xs ih =>
    rw [List.map_cons, List.nodup_cons] at hxs
    rcases List.mem_cons.1 hmem with rfl | hmem
    · rw [List.filter_cons_of_pos (by simp), List.filter_eq_nil_iff.2]
      intro y hy
      have hne : y.1 ≠ k := fun heq ↦ by
        rw [← heq] at hxs
        exact hxs.1 (show y.1 ∈ xs.map Prod.fst from List.mem_map_of_mem hy)
      simpa using hne
    · have hne : x.1 ≠ k := fun heq ↦ by
        rw [heq] at hxs
        exact hxs.1 (List.mem_map_of_mem hmem)
      rw [List.filter_cons_of_neg (by simpa using hne), ih hxs.2 hmem]

/-- **Everything the query finds is shown.** -/
theorem visible_of_mem_select {order : Arrangement VideoID} {row : Video}
    (h : (v, row) ∈ selectByHashPrefix sha256 order p db) : findByVideoID v db = some row := by
  obtain ⟨hrow, hvisible⟩ := Table.mem_rows.1 (List.mem_of_mem_filter (List.mem_of_mem_take h))
  rw [findByVideoID, hrow]
  exact Option.filter_eq_some_iff.2 ⟨rfl, hvisible⟩

/-- The row of a video that is shown, among those with its prefix. -/
theorem mem_filter_matches {row : Video} (hv : findByVideoID v db = some row)
    (hp : matchesHashPrefix sha256 p v) (order : Arrangement VideoID) :
    (v, row) ∈ (db.videos.rows order (·.visible)).filter fun x ↦
      matchesHashPrefix sha256 p x.1 := by
  obtain ⟨hrow, hvisible⟩ := Option.filter_eq_some_iff.1 hv
  exact List.mem_filter.2 ⟨Table.mem_rows.2 ⟨hrow, hvisible⟩, hp⟩

/-- **Within the limit** the query finds the video. -/
theorem mem_select {row : Video} (hv : findByVideoID v db = some row)
    (hp : matchesHashPrefix sha256 p v)
    (hlimit : db.visibleWithPrefix sha256 p ≤ hashPrefixLimit) (order : Arrangement VideoID) :
    (v, row) ∈ selectByHashPrefix sha256 order p db := by
  rw [selectByHashPrefix, List.take_of_length_le (by rwa [length_filter_matches])]
  exact mem_filter_matches hv hp order

/-- **Beyond the limit** the video may come too late. -/
theorem exists_notMem_select {row : Video} (hv : findByVideoID v db = some row)
    (hp : matchesHashPrefix sha256 p v)
    (hlimit : hashPrefixLimit < db.visibleWithPrefix sha256 p) :
    ∃ order, (v, row) ∉ selectByHashPrefix sha256 order p db := by
  obtain ⟨hrow, hvisible⟩ := Option.filter_eq_some_iff.1 hv
  obtain ⟨xs, hxs⟩ := Table.rows_endingWith (p := fun row : Video ↦ row.visible)
    (Arrangement.ascending VideoID) hrow hvisible
  refine ⟨Table.endingWith (Arrangement.ascending VideoID) v, fun hmem ↦ ?_⟩
  have hlen := length_filter_matches sha256 p db
    (Table.endingWith (Arrangement.ascending VideoID) v)
  have hnodup : ((db.videos.rows (Table.endingWith (Arrangement.ascending VideoID) v)
    (·.visible)).map Prod.fst).Nodup := Table.nodup_keys_rows
  rw [hxs] at hlen hnodup
  rw [selectByHashPrefix, hxs, List.filter_append, List.filter_cons_of_pos (by simpa using hp),
    List.filter_nil] at hmem
  rw [List.filter_append, List.filter_cons_of_pos (by simpa using hp), List.filter_nil,
    List.length_append, List.length_singleton] at hlen
  -- the thousand rows before it are other videos
  rw [List.take_append_of_le_length (by omega)] at hmem
  rw [List.map_append, List.nodup_append] at hnodup
  have hbefore := List.mem_of_mem_filter (List.mem_of_mem_take hmem)
  exact hnodup.2.2 v (List.mem_map_of_mem (f := Prod.fst) hbefore) v List.mem_cons_self rfl

/-- A video asked for has its own prefix. -/
theorem matchesHashPrefix_hashVideoID (sha256 : List UInt8 → Digest) (hv : videoIDRule.Allows v) :
    matchesHashPrefix sha256 (Extension.hashVideoID sha256 v 4) v := by
  refine (matchesHashPrefix_iff (isHashPrefix_hashVideoID sha256 v)).2
    ⟨_, hashExpr_eq_sha256Hex hv, ?_⟩
  rw [Extension.hashVideoID, String.toList_ofList]
  exact List.take_prefix 4 _

/-- **When the lookups agree**: whatever the query answers, the video is found in it exactly when it
is found by its id. -/
theorem filter_answer_iff (hv : videoIDRule.Allows v) :
    (∀ answer, HashPrefixAnswer sha256 (Extension.hashVideoID sha256 v 4) db answer →
      (answer.getD []).filter (·.1 = v) = (findByVideoID v db).toList.map (v, ·)) ↔
    findByVideoID v db = none ∨ (∀ v', db.videos.lookup v' ≠ none → castVideoID v' ≠ none) ∧
      db.visibleWithPrefix sha256 (Extension.hashVideoID sha256 v 4) ≤ hashPrefixLimit := by
  have hp := matchesHashPrefix_hashVideoID sha256 hv
  rcases hfind : findByVideoID v db with - | row
  · refine iff_of_true (fun answer hanswer ↦ ?_) (Or.inl rfl)
    rw [Option.toList_none, List.map_nil, List.filter_eq_nil_iff]
    intro x hx
    cases hanswer with
    | rows order =>
      have hne : x.1 ≠ v := fun heq ↦ by
        obtain rfl := heq
        rw [visible_of_mem_select hx] at hfind
        exact Option.some_ne_none _ hfind
      simpa using hne
    | castError _ _ => exact absurd hx List.not_mem_nil
  · rw [Option.toList_some, List.map_cons, List.map_nil, or_iff_right (Option.some_ne_none row)]
    refine ⟨fun h ↦ ⟨fun v' hv' hcast ↦ ?_, ?_⟩, fun ⟨hcast, hlimit⟩ answer hanswer ↦ ?_⟩
    · exact List.cons_ne_nil _ _ (h none (.castError hv' hcast)).symm
    · by_contra hlimit
      obtain ⟨order, hnot⟩ := exists_notMem_select hfind hp (Nat.lt_of_not_le hlimit)
      have hone := h _ (.rows order)
      exact hnot (List.mem_of_mem_filter (hone ▸ List.mem_singleton_self (v, row)))
    · cases hanswer with
      | rows order =>
        refine filter_key_eq ?_ (mem_select hfind hp hlimit order)
        exact (Table.nodup_keys_rows (t := db.videos)).sublist
          (((List.take_sublist _ _).trans List.filter_sublist).map _)
      | castError hv' hnone => exact absurd hnone (hcast _ hv')

/-! ### A crowded prefix -/

/-- A digest that is always the same. -/
def zeroDigest (_ : List UInt8) : Digest := ⟨List.replicate 32 0, List.length_replicate⟩

/-- The id of ten binary digits. -/
def crowdID (n : ℕ) : VideoID :=
  String.ofList ((List.range 10).map fun i ↦ if n.testBit i then '1' else '0')

theorem allows_crowdID (n : ℕ) : videoIDRule.Allows (crowdID n) := by
  have hlen : (crowdID n).length = 10 := by
    rw [← String.length_toList, crowdID, String.toList_ofList, List.length_map, List.length_range]
  have hle : (crowdID n).length ≤ 16 := by omega
  refine ⟨by omega, hle, fun c hc ↦ ?_⟩
  rw [crowdID, String.toList_ofList] at hc
  obtain ⟨i, -, rfl⟩ := List.mem_map.1 hc
  split_ifs <;> decide +kernel

theorem crowdID_inj {m n : ℕ} (hm : m < 1024) (hn : n < 1024) (h : crowdID m = crowdID n) :
    m = n := by
  refine Nat.eq_of_testBit_eq fun i ↦ ?_
  by_cases hi : i < 10
  · have hbits := List.map_inj_left.1 (String.ofList_injective h) i (List.mem_range.2 hi)
    cases hmi : m.testBit i <;> cases hni : n.testBit i <;> simp_all
  · have hpow : 1024 ≤ 2 ^ i := calc
      1024 = 2 ^ 10 := by decide
      _ ≤ 2 ^ i := Nat.pow_le_pow_right Nat.two_pos (Nat.le_of_not_lt hi)
    rw [Nat.testBit_lt_two_pow (hm.trans_le hpow), Nat.testBit_lt_two_pow (hn.trans_le hpow)]

/-- A number of videos, all of them shown. -/
def crowd : ℕ → Table VideoID Video
  | 0 => ∅
  | n + 1 => (crowd n).insert (crowdID n) (Video.new 0)

/-- The database with these videos. -/
def crowdDB (n : ℕ) : DB := { DB.start ∅ ∅ with videos := crowd n }

theorem exists_of_lookup_crowd {n : ℕ} {v : VideoID} (h : (crowd n).lookup v ≠ none) :
    ∃ m < n, v = crowdID m := by
  induction n with
  | zero => exact absurd rfl h
  | succ n ih =>
    rw [crowd, Table.lookup_insert] at h
    split_ifs at h with hv
    · exact ⟨n, Nat.lt_succ_self n, hv⟩
    · obtain ⟨m, hm, rfl⟩ := ih h
      exact ⟨m, Nat.lt_succ_of_lt hm, rfl⟩

/-- All of them have the same prefix. -/
theorem visibleWithPrefix_crowdDB {n : ℕ} (hn : n ≤ 1024) (v : VideoID) :
    (crowdDB n).visibleWithPrefix zeroDigest (Extension.hashVideoID zeroDigest v 4) = n := by
  have hmatch : ∀ m,
      matchesHashPrefix zeroDigest (Extension.hashVideoID zeroDigest v 4) (crowdID m) := fun m ↦ by
    have hzero : Extension.hashVideoID zeroDigest v 4 =
        Extension.hashVideoID zeroDigest (crowdID m) 4 := by
      simp only [Extension.hashVideoID, Extension.sha256Hex, zeroDigest]
    rw [hzero]
    exact matchesHashPrefix_hashVideoID zeroDigest (allows_crowdID m)
  rw [DB.visibleWithPrefix, show (crowdDB n).videos = crowd n from rfl]
  induction n with
  | zero => rfl
  | succ n ih =>
    have hfresh : (crowd n).lookup (crowdID n) = none := by
      by_contra hlook
      obtain ⟨m, hm, heq⟩ := exists_of_lookup_crowd hlook
      have hmn := crowdID_inj (by omega) (by omega) heq
      omega
    rw [Table.count_eq_add_erase _ _ (crowdID n), crowd, Table.lookup_insert_self,
      Table.erase_insert, Table.erase_eq_self hfresh, ih (by omega), Option.elim_some,
      if_pos ⟨rfl, hmatch n⟩, add_comm]

/-- The last of the videos is shown. -/
theorem findByVideoID_crowdDB (n : ℕ) :
    findByVideoID (crowdID n) (crowdDB (n + 1)) = some (Video.new 0) := by
  rw [findByVideoID, crowdDB, crowd, Table.lookup_insert_self]
  rfl

/-! ### The protocol -/

/-- **The hash-prefix protocol**: for any database and any digest, the prefix the extension sends
for a valid id passes the validators of both backends unchanged; and the lookup by prefix finds the
video exactly when the lookup by id does, if all ids in the table can be cast and no more than 1000
of the videos that are shown have the prefix. For a video that is shown, that is also necessary. -/
theorem hashPrefix_agrees (sha256 : List UInt8 → Digest) (db : DB) (v : VideoID)
    (hv : videoIDRule.Allows v) :
    (∀ (lower : Text.LowerCase) (b : Backend),
      b.validateHashPrefix lower (Text.ofString (Extension.hashVideoID sha256 v 4)) =
        .ok (Extension.hashVideoID sha256 v 4)) ∧
    ((∀ answer, HashPrefixAnswer sha256 (Extension.hashVideoID sha256 v 4) db answer →
        (answer.getD []).filter (·.1 = v) = (findByVideoID v db).toList.map (v, ·)) ↔
      findByVideoID v db = none ∨ (∀ v', db.videos.lookup v' ≠ none → castVideoID v' ≠ none) ∧
        db.visibleWithPrefix sha256 (Extension.hashVideoID sha256 v 4) ≤ hashPrefixLimit) := by
  refine ⟨fun lower b ↦ ?_, filter_answer_iff hv⟩
  have hp := isHashPrefix_hashVideoID sha256 v
  exact validateHashPrefix_eq_ok_iff.2 ⟨stripLower_eq_self hp.2.2, hp⟩

/-- For the only video of a database the lookups agree. -/
theorem hashPrefix_agrees_crowdDB :
    (∀ (lower : Text.LowerCase) (b : Backend),
      b.validateHashPrefix lower (Text.ofString (Extension.hashVideoID zeroDigest (crowdID 0) 4)) =
        .ok (Extension.hashVideoID zeroDigest (crowdID 0) 4)) ∧
    ((∀ answer, HashPrefixAnswer zeroDigest (Extension.hashVideoID zeroDigest (crowdID 0) 4)
          (crowdDB 1) answer →
        (answer.getD []).filter (·.1 = crowdID 0) =
          (findByVideoID (crowdID 0) (crowdDB 1)).toList.map (crowdID 0, ·)) ↔
      findByVideoID (crowdID 0) (crowdDB 1) = none ∨
        (∀ v', (crowdDB 1).videos.lookup v' ≠ none → castVideoID v' ≠ none) ∧
        (crowdDB 1).visibleWithPrefix zeroDigest (Extension.hashVideoID zeroDigest (crowdID 0) 4) ≤
          hashPrefixLimit) :=
  hashPrefix_agrees zeroDigest (crowdDB 1) (crowdID 0) (allows_crowdID 0)

/-- **With 1001 videos that share a prefix** the lookup may miss the one it is for. -/
theorem not_hashPrefix_agrees :
    ¬ ∀ (sha256 : List UInt8 → Digest) (db : DB) (v : VideoID), videoIDRule.Allows v →
      ∀ answer, HashPrefixAnswer sha256 (Extension.hashVideoID sha256 v 4) db answer →
        (answer.getD []).filter (·.1 = v) = (findByVideoID v db).toList.map (v, ·) := by
  intro h
  have hmatch := matchesHashPrefix_hashVideoID zeroDigest (allows_crowdID 1000)
  have hcount := visibleWithPrefix_crowdDB (show 1000 + 1 ≤ 1024 by omega) (crowdID 1000)
  obtain ⟨order, hnot⟩ := exists_notMem_select (findByVideoID_crowdDB 1000) hmatch
    (by rw [hcount, hashPrefixLimit]; omega)
  have hone := h zeroDigest (crowdDB (1000 + 1)) (crowdID 1000) (allows_crowdID 1000) _
    (.rows order)
  rw [findByVideoID_crowdDB, Option.toList_some, List.map_cons, List.map_nil,
    Option.getD_some] at hone
  exact hnot (List.mem_of_mem_filter (hone ▸ List.mem_singleton_self (crowdID 1000, Video.new 0)))

end RealTube
