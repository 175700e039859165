import RealTube.Model.ChannelService
import RealTube.Model.Handlers
import RealTube.Sync.Poll
import RealTube.Text.JsonDoc
import Mathlib.Data.List.DropRight

/-!
# Cached responses as text

What the two backends store in Redis for a video, and what they make of an entry. `SetVideo` of
`service/cache_svc.go` stores `json.Marshal` of a `VideoResponse`, `set_video` of
`services/cache_service.py` stores `json.dumps` of the model as a dictionary. The fields are the
same and come in the same order, but the texts differ: in the escapes of strings and the blanks
between tokens, in how a number of floating point is written, and in the zone and the fraction of a
timestamp.

On a hit Go decodes the entry into a `VideoResponse` (`LookupByVideoID` of `service/video_svc.go`)
and encodes it once more for the answer; an entry that it cannot decode counts as a miss. Python
(`get_by_video_id` of `routers/videos.py`) loads the entry as a dictionary and dumps that for the
answer. Timestamps are in UTC.
-/

namespace RealTube

/-! ### Writing -/

/-- A field of a document: of several with one name, the last. -/
def docField (key : String) : JsonDoc → Option JsonDoc
  | .obj fields => ((fields.filter fun x ↦ x.1 = key).getLast?).map Prod.snd
  | _ => none

/-- `CategoryDetail`, with a writer of numbers. -/
def CategoryDetail.doc (float : ℚ → Literal) (d : CategoryDetail) : JsonDoc :=
  .obj [("votes", .num (.ofInt d.votes)), ("weightedScore", .num (float d.weightedScore))]

/-- The categories that a response has, by their names. -/
def categoryFields (float : ℚ → Literal) (order : List Category)
    (categories : Category → Option CategoryDetail) : List (String × JsonDoc) :=
  order.filterMap fun c ↦ (categories c).map fun d ↦ (c.name, d.doc float)

/-- `VideoResponse`, with writers of numbers and of timestamps, and an order of the categories. -/
def VideoResponse.doc (float : ℚ → Literal) (time : Time → List Char) (order : List Category)
    (resp : VideoResponse) : JsonDoc :=
  .obj ([("videoId", .str resp.videoID), ("score", .num (float resp.score)),
    ("categories", .obj (categoryFields float order resp.categories)),
    ("totalVotes", .num (.ofInt resp.totalVotes)), ("locked", .bool resp.locked)] ++
    (resp.channelID.elim [] fun ch ↦ [("channelId", .str ch)]) ++
    [("lastUpdated", .str (String.ofList (time resp.lastUpdated)))])

variable (F : FloatFormat)

namespace Go

/-- `encoding/json` on a `float64`: with an exponent when it is very small or very large, which is
written without zeros in front. -/
def floatLiteral (x : ℚ) : Literal :=
  if x ≠ 0 ∧ (|x| < 1 / 10 ^ 6 ∨ 10 ^ 21 ≤ |x|) then (F.decimal x).scientific natDigits
  else (F.decimal x).fixed false

/-- The fraction of a second, without zeros at the end. -/
def fractionText (ticks : ℕ) : List Char :=
  if ticks = 0 then [] else '.' :: (pad 6 ticks).rdropWhile (· = '0')

/-- `time.Time.MarshalJSON`: `RFC3339Nano`. -/
def timeText (t : Time) : List Char :=
  Timestamp.printSeconds (t / ticksPerSecond).toNat
    (fractionText (t % ticksPerSecond).toNat ++ ['Z'])

/-- `json.Marshal`: the characters of HTML are escaped, and so are the two line separators. -/
def jsonStyle : JsonDoc.Style where
  plain c := 32 ≤ c.toNat && c ≠ '<' && c ≠ '>' && c ≠ '&' && c ≠ '\u2028' && c ≠ '\u2029'
  gap := []
  le_of_plain c h := by
    simp only [Bool.and_eq_true, decide_eq_true_eq] at h
    exact h.1.1.1.1.1
  gap_blank _ h := by cases h

/-- The keys of a map are sorted. -/
def categoryOrder : List Category :=
  [.aiAssisted, .aiThumbnails, .aiVisuals, .aiVoiceover, .fullyAI]

/-- `json.Marshal` of a `VideoResponse`. -/
def videoDoc (resp : VideoResponse) : JsonDoc := resp.doc (floatLiteral F) timeText categoryOrder

end Go

namespace Python

/-- Two digits of an exponent at least. -/
def exponentDigits (n : ℕ) : Digits :=
  ⟨List.replicate (2 - (natDigits n).1.length) '0' ++ (natDigits n).1, fun h ↦
    (natDigits n).2.1 (List.append_eq_nil_iff.1 h).2, fun c hc ↦
      (List.mem_append.1 hc).elim (fun h ↦ List.eq_of_mem_replicate h ▸ rfl) ((natDigits n).2.2 c)⟩

/-- `float.__repr__`: in full from `1e-4` up to `1e16`, and then with a fraction. -/
def floatLiteral (x : ℚ) : Literal :=
  if -4 < (F.decimal x).point ∧ (F.decimal x).point ≤ 16 then (F.decimal x).fixed true
  else (F.decimal x).scientific exponentDigits

/-- The fraction of a second: six digits, or none. -/
def fractionText (ticks : ℕ) : List Char := if ticks = 0 then [] else '.' :: pad 6 ticks

/-- `datetime.isoformat`, in UTC. -/
def timeText (t : Time) : List Char :=
  Timestamp.printSeconds (t / ticksPerSecond).toNat
    (fractionText (t % ticksPerSecond).toNat ++ "+00:00".toList)

/-- `json.dumps`: only ASCII, and a blank after commas and colons. -/
def dumpsStyle : JsonDoc.Style where
  plain c := 32 ≤ c.toNat && c.toNat < 127
  gap := [' ']
  le_of_plain c h := by
    simp only [Bool.and_eq_true, decide_eq_true_eq] at h
    exact h.1
  gap_blank _ h := List.mem_singleton.1 h

/-- The JSON of an answer: `ensure_ascii=False`, and no blanks. -/
def responseStyle : JsonDoc.Style where
  plain c := 32 ≤ c.toNat
  gap := []
  le_of_plain c h := of_decide_eq_true h
  gap_blank _ h := by cases h

/-- `model_dump(by_alias=True, exclude_none=True)` of a `VideoResponse`, as it is dumped. A
dictionary has the order of the rows. -/
def videoDoc (order : Arrangement Category) (resp : VideoResponse) : JsonDoc :=
  resp.doc (floatLiteral F) timeText (order.list Finset.univ)

end Python

/-- The entry that a backend stores. -/
def Backend.videoText (order : Arrangement Category) : Backend → VideoResponse → List Char
  | .go, resp => (Go.videoDoc F resp).write Go.jsonStyle
  | .python, resp => (Python.videoDoc F order resp).write Python.dumpsStyle

/-! ### Reading -/

namespace Go

/-- A `string`. -/
def strOf : Option JsonDoc → Option String
  | none | some .null => some ""
  | some (.str s) => some s
  | _ => none

/-- A `*string`. -/
def strPtrOf : Option JsonDoc → Option (Option String)
  | none | some .null => some none
  | some (.str s) => some (some s)
  | _ => none

/-- A `bool`. -/
def boolOf : Option JsonDoc → Option Bool
  | none | some .null => some false
  | some (.bool b) => some b
  | _ => none

/-- A `float64`. -/
def floatOf : Option JsonDoc → Option ℚ
  | none | some .null => some 0
  | some (.num l) => some (F.round l.value)
  | _ => none

/-- An `int`: no fraction, no exponent, and within 64 bits. -/
def intOf : Option JsonDoc → Option ℤ
  | none | some .null => some 0
  | some (.num l) =>
    if l.isInteger ∧ -2 ^ 63 ≤ l.value.num ∧ l.value.num < 2 ^ 63 then some l.value.num else none
  | _ => none

/-- What `time.Time.UnmarshalJSON` accepts. -/
def strictRFC3339 : Timestamp.Reader := { rfc3339 with isPoint := (· = '.') }

/-- A `time.Time`; without a value it is the first of January of the year 1. -/
def timeOf : Option JsonDoc → Option Time
  | none | some .null => some (-62135596800 * ticksPerSecond)
  | some (.str s) => readTime strictRFC3339 s.toList
  | _ => none

/-- A `CategoryDetail`. -/
def detailOf (d : JsonDoc) : Option CategoryDetail := do
  let votes ← intOf (docField "votes" d)
  let weightedScore ← floatOf F (docField "weightedScore" d)
  some ⟨votes, weightedScore⟩

/-- A `map[string]*CategoryDetail`. -/
def categoriesOf : Option JsonDoc → Option (Category → Option CategoryDetail)
  | none | some .null => some fun _ ↦ none
  | some (.obj fields) =>
    if fields.all fun x ↦ (detailOf F x.2).isSome then
      some fun c ↦ (docField c.name (.obj fields)).bind (detailOf F)
    else none
  | _ => none

/-- `json.Unmarshal` into a `VideoResponse`. -/
def videoOf (d : JsonDoc) : Option VideoResponse := do
  let videoID ← strOf (docField "videoId" d)
  let score ← floatOf F (docField "score" d)
  let categories ← categoriesOf F (docField "categories" d)
  let totalVotes ← intOf (docField "totalVotes" d)
  let locked ← boolOf (docField "locked" d)
  let channelID ← strPtrOf (docField "channelId" d)
  let lastUpdated ← timeOf (docField "lastUpdated" d)
  some { videoID, score, categories, totalVotes, locked, channelID, lastUpdated }

end Go

namespace Python

/-- A number that is loaded, an `int` or a `float`, as it is dumped. -/
def reprint (l : Literal) : Literal :=
  if l.isInteger then .ofInt l.value.num else floatLiteral F (F.round l.value)

mutual

/-- `json.loads`, as it is dumped. -/
def reload : JsonDoc → JsonDoc
  | .null => .null
  | .bool b => .bool b
  | .num l => .num (reprint F l)
  | .str s => .str s
  | .arr items => .arr (reloadItems items)
  | .obj fields => .obj (reloadFields fields)

def reloadItems : List JsonDoc → List JsonDoc
  | [] => []
  | x :: xs => reload x :: reloadItems xs

def reloadFields : List (String × JsonDoc) → List (String × JsonDoc)
  | [] => []
  | (key, x) :: fields => (key, reload x) :: reloadFields fields

end

end Python

/-- The response that the text of an answer stands for. -/
def responseOf (body : List Char) : Option VideoResponse :=
  (JsonDoc.read body).bind (Go.videoOf F)

/-- The answer of a backend that finds an entry; `none` when it counts as a miss. -/
def Backend.hitBody : Backend → List Char → Option (List Char)
  | .go, entry => ((JsonDoc.read entry).bind (Go.videoOf F)).map fun resp ↦
      (Go.videoDoc F resp).write Go.jsonStyle
  | .python, entry =>
    match JsonDoc.read entry with
    | none | some .null => none
    | some d => some ((Python.reload F d).write Python.responseStyle)

end RealTube
