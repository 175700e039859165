import RealTube.Model.ChannelService
import RealTube.Cache.Invalidation
import RealTube.Scores.Batch

/-!
# How old an answer can be

Any number of lookups, by either backend, run beside any commits; Redis may fail any of its
operations, and lose or be told to delete any key at any time, which covers the deletions of the
vote handlers and the score workers. The cache is not kept right (`not_cacheRight_setAfterDelete`),
and nothing deletes the key of a channel at all, but every entry expires. So a channel is answered
as its row and its top categories were at most fifteen minutes, and the time of a lookup, ago
(`channel_answer`), a video as it was five minutes ago (`video_answer`), and a lookup that left an
outdated response behind is forgotten after that (`video_answer_of_settled`).
-/

open Steps CacheAside CacheAside.Service

namespace RealTube

/-! ### Keys -/

/-- `channelKey`. -/
def channelKey (channelID : ChannelID) : String := "channel:" ++ channelID

theorem videoKey_injective : Function.Injective videoKey := fun _ _ h ↦
  String.append_right_inj _ |>.1 h

theorem channelKey_injective : Function.Injective channelKey := fun _ _ h ↦
  String.append_right_inj _ |>.1 h

/-- The two caches share no key, so each is a table of its own. -/
theorem videoKey_ne_channelKey (v : VideoID) (ch : ChannelID) : videoKey v ≠ channelKey ch := by
  intro h
  have hchars := congrArg (fun s ↦ s.toList.head?) h
  simp [videoKey, channelKey] at hchars

/-! ### Answers -/

variable {ι : Type} [DecidableEq ι] {db : DB} {D : ℕ}

/-- **Channel lookups.** In every run in which a lookup takes at most `D`, whatever is answered for
a channel is its row as it was at most fifteen minutes and `D` ago, with its top categories as they
were at some later moment; it is answered as not found only if there was no row. -/
theorem channel_answer {es : List (Event ι ChannelID (Arrangement Category) (List Write))}
    {sys : Sys ι ChannelID DB (Option Channel) ChannelLookup}
    (h : Run channelService.step (Within D) (Sys.init db) es sys)
    {e : Event ι ChannelID (Arrangement Category) (List Write)} (hin : Within D sys e)
    {ch : ChannelID} {resp : Option ChannelLookup}
    (hanswer : channelService.answer sys e = some (ch, resp)) :
    ∃ t₁ db₁ t₂ db₂ order, t₁ ≤ t₂ ∧ t₂ ≤ sys.now ∧ sys.now ≤ t₁ + D + channelCacheTTL ∧
      channelService.Was (Sys.init db) es t₁ db₁ ∧ channelService.Was (Sys.init db) es t₂ db₂ ∧
      resp = (db₁.channels.lookup ch).map fun row ↦
        buildChannelLookup ch row (getTopCategories ch order db₂) :=
  twoQueries_answer h hin hanswer

/-- A row of `channels`. -/
def channelRow (score : ℚ) : Channel := { Channel.new 0 with score }

/-- One channel. -/
def oneChannel : DB := ⟨∅, ∅, ∅, ∅, (∅ : Table ChannelID Channel).insert "c" (channelRow 60)⟩

/-- The channel is looked up, and its score changes after its row was read. -/
def lookupBesideTick : List (Event (Fin 2) ChannelID (Arrangement Category) (List Write)) :=
  [.begin 0 "c" true, .read 0 Category.arrangement, .write [.channel "c" (channelRow 80)],
    .pass 500, .read 0 Category.arrangement, .set 0 true, .pass 899000]

theorem run_lookupBesideTick : (exec channelService.step (Within 1000) (Sys.init oneChannel)
    lookupBesideTick).isSome := by
  decide +kernel

/-- The next lookup is answered with the score of before, almost fifteen minutes later. -/
theorem channel_answer_lookupBesideTick :
    ∃ t₁ db₁ t₂ db₂ order, t₁ ≤ t₂ ∧ t₂ ≤ (Option.get _ run_lookupBesideTick).now ∧
      (Option.get _ run_lookupBesideTick).now ≤ t₁ + 1000 + channelCacheTTL ∧
      channelService.Was (Sys.init oneChannel) lookupBesideTick t₁ db₁ ∧
      channelService.Was (Sys.init oneChannel) lookupBesideTick t₂ db₂ ∧
      some (buildChannelLookup "c" (channelRow 60) []) = (db₁.channels.lookup "c").map fun row ↦
        buildChannelLookup "c" row (getTopCategories "c" order db₂) :=
  channel_answer (run_of_exec (Option.some_get run_lookupBesideTick).symm)
    (e := .begin 1 "c" true) trivial (by decide +kernel)

/-- **Video lookups.** Whatever is answered for a video is its row as it was at most five minutes
and `D` ago, if it was visible then, with its categories as they were at some later moment. -/
theorem video_answer {es : List (Event ι VideoID Unit (List Write))}
    {sys : Sys ι VideoID DB (Option Video) VideoResponse}
    (h : Run videoService.step (Within D) (Sys.init db) es sys)
    {e : Event ι VideoID Unit (List Write)} (hin : Within D sys e) {v : VideoID}
    {resp : Option VideoResponse} (hanswer : videoService.answer sys e = some (v, resp)) :
    ∃ t₁ db₁ t₂ db₂, t₁ ≤ t₂ ∧ t₂ ≤ sys.now ∧ sys.now ≤ t₁ + D + videoCacheTTL ∧
      videoService.Was (Sys.init db) es t₁ db₁ ∧ videoService.Was (Sys.init db) es t₂ db₂ ∧
      resp = lookupByVideoID none v db₁ db₂ := by
  obtain ⟨t₁, db₁, t₂, db₂, -, hle, hnow, hage, hwas₁, hwas₂, hresp⟩ :=
    twoQueries_answer h hin hanswer
  exact ⟨t₁, db₁, t₂, db₂, hle, hnow, hage, hwas₁, hwas₂, hresp⟩

/-- The video is looked up; a vote is counted after its row was read, and the key deleted before the
response is cached. -/
def lookupOvertaken : List (Event (Fin 2) VideoID Unit (List Write)) :=
  [.begin 0 "v" true, .read 0 (), .write [.video "v" { Video.new 0 with totalVotes := 2 }],
    .drop "v", .read 0 (), .set 0 true]

theorem run_lookupOvertaken : (exec videoService.step (Within 1000) (Sys.init oneVote)
    lookupOvertaken).isSome := by
  decide +kernel

/-- The response of before is still answered. -/
theorem video_answer_lookupOvertaken :
    ∃ t₁ db₁ t₂ db₂, t₁ ≤ t₂ ∧ t₂ ≤ (Option.get _ run_lookupOvertaken).now ∧
      (Option.get _ run_lookupOvertaken).now ≤ t₁ + 1000 + videoCacheTTL ∧
      videoService.Was (Sys.init oneVote) lookupOvertaken t₁ db₁ ∧
      videoService.Was (Sys.init oneVote) lookupOvertaken t₂ db₂ ∧
      oneVote.response "v" = lookupByVideoID none "v" db₁ db₂ :=
  video_answer (run_of_exec (Option.some_get run_lookupOvertaken).symm)
    (e := .begin 1 "v" true) trivial (by decide +kernel)

/-! ### Settled rows -/

/-- A commit that does not touch the rows of a video leaves what its lookup reads. -/
theorem sameVideo_applyAll {v : VideoID} {ws : List Write}
    (hws : Row.video v ∉ (RowStore.rows ws : List Row) ∧ ∀ c, Row.videoCategory v c ∉
      (RowStore.rows ws : List Row)) (db : DB) :
    findByVideoID v (RowStore.applyAll db ws) = findByVideoID v db ∧
      getCategories v (RowStore.applyAll db ws) = getCategories v db := by
  have hvideo : db.Same (RowStore.applyAll db ws) (.video v) :=
    RowStore.same_applyAll_of_notMem db hws.1
  have hcategory (c : Category) : db.Same (RowStore.applyAll db ws) (.videoCategory v c) :=
    RowStore.same_applyAll_of_notMem db (hws.2 c)
  constructor
  · rw [findByVideoID, findByVideoID,
      show db.videos.lookup v = (RowStore.applyAll db ws).videos.lookup v from hvideo]
  · exact funext fun c ↦ (hcategory c).symm

/-- **Videos settle.** When no commit after the events `es₁` touches the rows of a video, and more
than five minutes and `D` have passed since, every answer for it is the response that the database
gives now, whatever the lookups that were overtaken have left in the cache. -/
theorem video_answer_of_settled {es₁ es₂ : List (Event ι VideoID Unit (List Write))}
    {sys₁ sys : Sys ι VideoID DB (Option Video) VideoResponse}
    (h : Run videoService.step (Within D) (Sys.init db) (es₁ ++ es₂) sys)
    (h₁ : Run videoService.step Any (Sys.init db) es₁ sys₁) {v : VideoID}
    (hsettled : ∀ ws, Event.write ws ∈ es₂ → Row.video v ∉ (RowStore.rows ws : List Row) ∧
      ∀ c, Row.videoCategory v c ∉ (RowStore.rows ws : List Row))
    (hlate : sys₁.now + D + videoCacheTTL < sys.now) {e : Event ι VideoID Unit (List Write)}
    (hin : Within D sys e) {resp : Option VideoResponse}
    (hanswer : videoService.answer sys e = some (v, resp)) : resp = sys.store.response v := by
  obtain ⟨-, hresp⟩ := twoQueries_answer_of_settled h h₁ (fun ws db hmem ↦
    have hsame := sameVideo_applyAll (hsettled ws hmem) db
    ⟨hsame.1, fun row _ ↦ congrArg (buildResponse v row) hsame.2⟩) hlate hin hanswer
  exact hresp

/-- Five minutes later, and a second for the lookup, the video is looked up again. -/
def lookupSettled : List (Event (Fin 2) VideoID Unit (List Write)) :=
  [.pass 301001, .begin 1 "v" true, .read 1 (), .read 1 ()]

theorem run_lookupSettled : (exec videoService.step (Within 1000) (Sys.init oneVote)
    (lookupOvertaken ++ lookupSettled)).isSome := by
  decide +kernel

/-- It is answered with the vote. -/
theorem video_answer_lookupSettled :
    some (buildResponse "v" { Video.new 0 with totalVotes := 2 } (getCategories "v" oneVote)) =
      (Option.get _ run_lookupSettled).store.response "v" :=
  video_answer_of_settled (run_of_exec (Option.some_get run_lookupSettled).symm)
    (run_of_exec (Option.some_get run_lookupOvertaken).symm).any
    (fun ws hws ↦ by simp [lookupSettled] at hws) (by decide +kernel) (e := .set 1 true)
    (by decide +kernel) (by decide +kernel)

/-! ### Hidden videos -/

/-- The video has no visible row. -/
def DB.NotShown (db : DB) (v : VideoID) : Prop :=
  ∀ row, db.videos.lookup v = some row → row.visible = false

/-- A write keeps the row of a video hidden, if it writes it at all. -/
def Write.KeepsHidden (v : VideoID) (w : Write) : Prop :=
  ∀ row, w = .video v row → row.visible = false

theorem notShown_applyAll {v : VideoID} {ws : List Write} (hws : ∀ w ∈ ws, w.KeepsHidden v)
    {db : DB} (h : db.NotShown v) : DB.NotShown (RowStore.applyAll db ws) v := by
  induction ws generalizing db with
  | nil => exact h
  | cons w ws ih =>
    refine ih (fun w' hw' ↦ hws w' (List.mem_cons_of_mem w hw')) fun row hrow ↦ ?_
    by_cases hwrite : w.row = some (.video v)
    · obtain ⟨row', rfl⟩ : ∃ row', w = .video v row' := by
        cases w <;> simp_all [Write.row]
      obtain rfl := (Table.lookup_insert_self _ _ _).symm.trans hrow |> Option.some.inj
      exact hws _ (List.mem_cons_self ..) _ rfl
    · exact h row ((db.same_write_of_ne hwrite).trans hrow)

/-- **Hidden videos are forgotten.** Five minutes and `D` after a video was hidden, it is answered
as not found, as long as it stays hidden. -/
theorem video_answer_of_hidden {es₁ es₂ : List (Event ι VideoID Unit (List Write))}
    {sys₁ sys : Sys ι VideoID DB (Option Video) VideoResponse}
    (h : Run videoService.step (Within D) (Sys.init db) (es₁ ++ es₂) sys)
    (h₁ : Run videoService.step Any (Sys.init db) es₁ sys₁) {v : VideoID}
    (hhidden : sys₁.store.NotShown v)
    (hkeep : ∀ ws, Event.write ws ∈ es₂ → ∀ w ∈ ws, w.KeepsHidden v)
    (hlate : sys₁.now + D + videoCacheTTL < sys.now) {e : Event ι VideoID Unit (List Write)}
    (hin : Within D sys e) {resp : Option VideoResponse}
    (hanswer : videoService.answer sys e = some (v, resp)) : resp = none := by
  obtain ⟨-, db₁, db₂, -, hdb₁, -, hresp⟩ := twoQueries_answer_of_kept (I := (DB.NotShown · v)) h h₁
    hhidden (fun ws _ hmem hdb ↦ notShown_applyAll (hkeep ws hmem) hdb) hlate hin hanswer
  rw [hresp, show findByVideoID v db₁ = none from
    Option.filter_eq_none_iff.2 fun row hrow ↦ by simpa using hdb₁ row hrow]
  rfl

/-- A video is hidden while a response for it is cached. -/
def hiddenWhileCached : List (Event (Fin 2) VideoID Unit (List Write)) :=
  [.begin 0 "v" true, .read 0 (), .read 0 (), .set 0 true,
    .write [.video "v" { Video.new 0 with hidden := true }]]

theorem run_hiddenWhileCached : (exec videoService.step (Within 1000) (Sys.init oneVote)
    hiddenWhileCached).isSome := by
  decide +kernel

/-- A vote on it, and five minutes and a second. -/
def votedOnHidden : List (Event (Fin 2) VideoID Unit (List Write)) :=
  [.pass 301001, .write [.video "v" { Video.new 0 with hidden := true, totalVotes := 2 }],
    .begin 1 "v" true]

theorem run_votedOnHidden : (exec videoService.step (Within 1000) (Sys.init oneVote)
    (hiddenWhileCached ++ votedOnHidden)).isSome := by
  decide +kernel

/-- It is not found, although nothing has deleted its key. -/
theorem video_answer_votedOnHidden :
    ((videoService.answer (Option.get _ run_votedOnHidden) (.read 1 ())).bind fun x ↦ x.2) = none :=
  video_answer_of_hidden (v := "v") (run_of_exec (Option.some_get run_votedOnHidden).symm)
    (run_of_exec (Option.some_get run_hiddenWhileCached).symm).any
    (fun row hrow ↦ by
      obtain rfl : { Video.new 0 with hidden := true } = row :=
        Option.some.inj ((by decide +kernel : some _ = _).trans hrow)
      rfl)
    (fun ws hws w hw row hrow ↦ by
      obtain rfl : ws = [.video "v" { Video.new 0 with hidden := true, totalVotes := 2 }] := by
        simpa [votedOnHidden] using hws
      obtain rfl := List.mem_singleton.1 hw
      cases hrow
      rfl)
    (by decide +kernel) (e := .read 1 ()) (by decide +kernel) (by decide +kernel)

end RealTube
