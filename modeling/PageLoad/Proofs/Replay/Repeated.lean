import PageLoad.Proofs.Replay.InOrder
import PageLoad.Proofs.Replay.Requests
import PageLoad.Proofs.Trace.Recorded
import Mathlib.Data.List.Perm.Basic

/-!
A crawl, its replay and a trace server fit together: the replay asks once for each task that the
crawl has reported, and the server sends as many bytes as its page had.
-/

namespace PageLoad.Replay
open Fetch Number Server Text Trace Work

/-! What a round needs so that a server can repeat it. -/

/-- What holds of a page because of how it is fetched, if a server can send one of its size as late as
it came. -/
structure IsServable (maxLength : Nat) (page : Fetch.Page) : Prop where
  contentType : ∃ value : Option (List UInt8),
    page.contentType = contentTypeOf (value.bind Http.valueText?)
  elapsed : page.elapsed < 2 ^ 63 * nanosecondsPerSecond
  length : page.body.length ≤ maxLength

structure IsSendable (url : String) : Prop where
  printable : ∀ c ∈ url.toList, Http.IsPrintable c
  bare : trim url.toList = url.toList

structure Servable (maxLength : Nat) (round : Crawl.Crawled) : Prop where
  fetched : ∀ task ∈ round.progress.accepted, ∀ page, round.fetch task.url = .page page →
    IsServable maxLength page
  seed : IsSendable round.seed.url.text
  links : ∀ task ∈ round.progress.accepted, ∀ page, round.fetch task.url = .page page →
    ∀ link ∈ page.links, IsSendable link
  total : (round.reports.map (·.bytes)).sum < UInt64.size

instance (url : String) : Decidable (IsSendable url) :=
  decidable_of_iff (url.toList.all (fun c => 32 ≤ c.toNat ∧ c.toNat < 127) = true ∧
      trim url.toList = url.toList) <| by
    simp only [List.all_eq_true, decide_eq_true_eq]
    exact ⟨fun ⟨printable, bare⟩ => ⟨printable, bare⟩, fun ⟨printable, bare⟩ => ⟨printable, bare⟩⟩

theorem IsSendable.tidy {url : String} (sendable : IsSendable url) : IsTidy url :=
  ⟨fun member => absurd (sendable.printable '\n' member).1 (by decide), sendable.bare⟩

variable {maxLength : Nat} {round : Crawl.Crawled}

theorem Servable.regular (servable : Servable maxLength round) : Regular round where
  fetched task member page found := by
    have ⟨contentType, elapsed, _⟩ := servable.fetched task member page found
    exact ⟨contentType, elapsed.trans (Nat.mul_lt_mul_of_pos_right (by decide) (by decide))⟩
  seed := servable.seed.tidy
  links task member page found link named := (servable.links task member page found link named).tidy
  total := servable.total

theorem Servable.askable (servable : Servable maxLength round)
    (finished : Crawl.Progress.Finished round.fetch round.seed.url.text round.progress)
    {report : Crawl.TaskReport} (reported : report ∈ round.reports) {asset : Asset}
    (records : asset.Records report) : IsAskable maxLength asset := by
  have recordable := servable.regular.recordable finished reported
  obtain ⟨task, member, page, found, rfl⟩ := finished.mem_reports.mp reported
  have sendable : IsSendable task.url := finished.rooted.holds_url servable.seed servable.links member
  have ⟨_, elapsed, length⟩ := servable.fetched task member page found
  obtain ⟨units, whole, bound⟩ := secondsOf_le (by decide : 62 ≤ 64) elapsed
  obtain ⟨count, read, printed, _, isRead, small⟩ := readDouble?_fixed (by decide) bound
  refine ⟨?_, ⟨read, ?_, small⟩, ?_, ?_⟩
  · rw [records.url]
    exact sendable.printable
  · have same := records.read
    change readDouble? (secondsOf page.elapsed).fixed.toList = _ at same
    rw [whole, printed, isRead] at same
    exact (Option.some.inj same).symm
  · rw [records.length]
    exact recordable.bytes
  · rw [records.length]
    exact length

/-! What comes of a round. -/

/-- A replay has repeated a round: its page has an asset for each line, one request was sent for each
line and was answered with as many bytes, none before the page that names its task had arrived. -/
structure Repeats (client : Client) (round : Crawl.Crawled) (replayed : Replayed) : Prop where
  page : replayed.page.Records round
  requests : ∃ reports : List Crawl.TaskReport, reports.Perm round.reports ∧
    List.Forall₂ (fun report => IsFulfilled client replayed.network report.url report.bytes) reports
      (replayed.requests client)
  ordered : ∀ before asset after, replayed.progress.notes = before ++ .asked asset :: after →
    asset.id = Trace.Page.rootId ∨ ∃ parent, .arrived parent ∈ before ∧ parent.id = asset.parentId
  count : replayed.outcome.requests = round.reports.length
  failures : replayed.outcome.failures = 0
  line : replayed.outcome.line = replayed.elapsed.fixed ++ "," ++ toString round.summary.bytes

variable {client : Client} {network : Http.Network}

theorem requests_fulfilled (usable : client.IsUsable) (served : Serves maxLength network)
    {reports : List Crawl.TaskReport} {assets : List Asset}
    (same : List.Forall₂ Asset.Records reports assets)
    (askable : ∀ report ∈ reports, ∀ asset : Asset, asset.Records report → IsAskable maxLength asset) :
    List.Forall₂ (fun report => IsFulfilled client network report.url report.bytes) reports
      (assets.flatMap fun asset =>
        client.agent.requests network (Client.fields asset) maxRedirects client.endpoint) := by
  induction same with
  | nil => exact .nil
  | @cons report asset reports assets first _ ih =>
    have sendable := askable report List.mem_cons_self asset first
    obtain ⟨_, sent, once, fulfilled⟩ := send_served usable served sendable
    rw [List.flatMap_cons, once, List.singleton_append]
    rw [first.url, first.length] at fulfilled
    exact .cons fulfilled (ih fun other member => askable other (List.mem_cons_of_mem _ member))

theorem Replayed.IsBy.repeats {replayed : Replayed} {helpers workers : Nat}
    (replays : replayed.IsBy client helpers) (usable : client.IsUsable)
    (served : Serves maxLength replayed.network) (records : replayed.page.Records round)
    (crawled : round.IsBy workers) (reporting : round.reports ≠ [])
    (servable : Servable maxLength round) : Repeats client round replayed := by
  have ⟨roundFinished, _⟩ := crawled.finished
  have askable : ∀ report ∈ round.reports, ∀ asset : Asset, asset.Records report →
      IsAskable maxLength asset := fun _ reported _ same => servable.askable roundFinished reported same
  have tree := isTree_of_records records.assets crawled reporting
  have finished := replays.finished tree.toIsGrounded
  have arrives : ∀ asset ∈ replayed.page.records, client.send replayed.network asset = .ok () := by
    intro asset member
    obtain ⟨report, reported, recorded⟩ := match_of_mem records.assets member
    exact (send_served usable served (askable report reported asset recorded)).1
  obtain ⟨perm, succeeds⟩ := finished.whole tree arrives
  obtain ⟨reports, recorded, reordered⟩ := List.perm_comp_forall₂ perm records.assets.flip
  refine ⟨records, ⟨reports, reordered, ?_⟩, ?_, ?_, ?_, ?_⟩
  · refine requests_fulfilled usable served recorded.flip fun report member asset => ?_
    exact askable report (reordered.mem_iff.mp member) asset
  · exact fun before asset after split => finished.accounted.parent_arrived tree.toIsGrounded split
  · have asked := finished.visits_perm.length_eq
    rw [List.length_map] at asked
    rw [records.assets.length_eq, ← perm.length_eq, asked]
    rfl
  · refine List.countP_eq_zero.mpr fun visit member => ?_
    simp [succeeds visit member]
  · rw [← records.total]
    rfl

theorem Replays.repeats {workers helpers : Nat} {input : List UInt8} {rounds : List Crawl.Crawled}
    {replays : List Replayed}
    (replayed : Replays client helpers (Crawl.printed .csv rounds).toUTF8.toList replays)
    (crawls : Crawl.Crawls workers input rounds)
    (servable : ∀ round ∈ rounds, Servable maxLength round) (usable : client.IsUsable)
    (served : ∀ replayed ∈ replays, Serves maxLength replayed.network) :
    List.Forall₂ (Repeats client) (reporting rounds) replays := by
  obtain ⟨pages, records, read⟩ := read_pages crawls fun round member => (servable round member).regular
  have same : replays.map (·.page) = pages := by
    rw [replayed.pages, read, List.filterMap_map]
    exact List.filterMap_some
  rw [← same, List.forall₂_map_right_iff, List.forall₂_iff_zip] at records
  refine List.forall₂_iff_zip.mpr ⟨records.1, fun {round one} pair => ?_⟩
  have ⟨told, member⟩ := List.of_mem_zip pair
  have ⟨present, reports⟩ := List.mem_filter.mp told
  exact (replayed.replayed one member).repeats usable (served one member) (records.2 pair)
    (crawls.crawled round present) (of_decide_eq_true reports) (servable round present)

/-! A page with one picture. -/

def zeros : Answer → List UInt8
  | .bytes order => List.replicate order.length 0
  | .drained _ | .notAllowed => []
  | .rejected rejection => rejection.json.toUTF8.toList

def zerosNetwork (maxLength : Nat) : Http.Network := fun _ request =>
  .response ((answer maxLength request).response (zeros (answer maxLength request)) 0)

theorem zerosNetwork_serves (maxLength : Nat) : Serves maxLength (zerosNetwork maxLength) := by
  intro url request
  refine ⟨_, _, ?_, rfl⟩
  cases answer maxLength request with
  | bytes order => exact List.length_replicate
  | drained count | notAllowed | rejected rejection => rfl

def pictureClient : Client where
  agent := ⟨[], rfl⟩
  endpoint := ⟨"http", some ⟨"", "", .name "c", none⟩, .segments ["index"], none, none⟩
  proxy := none

theorem pictureClient_usable : pictureClient.IsUsable := by
  have made : (pictureClient.agent.request [] pictureClient.endpoint).isOk = true := by decide +kernel
  cases found : pictureClient.agent.request [] pictureClient.endpoint with
  | ok request => exact ⟨request, found⟩
  | error cause =>
    rw [found] at made
    cases made

theorem pictureSite_servable {round : Crawl.Crawled} (fetch : round.fetch = pictureSite.fetch)
    (seed : IsSendable round.seed.url.text) (few : (round.reports.map (·.bytes)).sum ≤ 14) :
    Servable 11 round := by
  refine ⟨?_, seed, ?_, few.trans_lt (by decide)⟩
  · intro task _ page found
    obtain rfl | rfl := pictureSite_pages (fetch ▸ found)
    · exact ⟨⟨"text/html".toUTF8.toList, by decide +kernel⟩, by decide, by decide +kernel⟩
    · exact ⟨⟨"image/png".toUTF8.toList, by decide +kernel⟩, by decide, by decide⟩
  · intro task _ page found
    obtain rfl | rfl := pictureSite_pages (fetch ▸ found)
    · decide +kernel
    · decide +kernel

/-- What a crawl has printed is repeated when it is replayed against a trace server. In any order of
their turns the workers come to the end of each page, and every round that has reported a task has
been repeated by one page then. A replay in order prints what one of these does. -/
theorem replay_crawl {workers : Nat} (helpers : Nat) {input : List UInt8} {rounds : List Crawl.Crawled}
    (crawls : Crawl.Crawls workers input rounds)
    (servable : ∀ round ∈ rounds, Servable maxLength round) (usable : client.IsUsable) :
    (∀ page, .page page ∈ Trace.read (Crawl.printed .csv rounds).toUTF8.toList →
      ∀ network, (crew Trace.Page.rootId (max helpers 1)).Ends (trade (client.send network) page)) ∧
    (∀ replays, Replays client helpers (Crawl.printed .csv rounds).toUTF8.toList replays →
      (∀ replayed ∈ replays, Serves maxLength replayed.network) →
      List.Forall₂ (Repeats client) (reporting rounds) replays) ∧
    ∀ network, Serves maxLength network → ∀ limit, (rounds.flatMap (·.reports)).length ≤ limit →
      ∃ replays, Replays client 1 (Crawl.printed .csv rounds).toUTF8.toList replays ∧
        List.Forall₂ (Repeats client) (reporting rounds) replays ∧
        output (run (client.send network) limit (Crawl.printed .csv rounds).toUTF8.toList) =
          printed replays := by
  have regular : ∀ round ∈ rounds, Regular round := fun round member => (servable round member).regular
  refine ⟨?_, ?_, ?_⟩
  · intro page member network
    exact crew_ends _ (isTree_of_read crawls regular member).1.toIsGrounded _
  · intro replays replayed served
    exact replayed.repeats crawls servable usable served
  · intro network served limit room
    obtain ⟨replays, replayed, same, output⟩ := run_replays client network limit _ fun page member =>
      have ⟨tree, few⟩ := isTree_of_read crawls regular member
      ⟨tree.toIsGrounded, few.trans room⟩
    refine ⟨replays, replayed, replayed.repeats crawls servable usable ?_, output⟩
    exact fun one member => same one member ▸ served

theorem replay_crawl_picture : ∃ rounds, Crawl.Crawls 1 "1,a://b\n".toUTF8.toList rounds ∧
    (∀ round ∈ rounds, Servable 11 round) ∧ pictureClient.IsUsable ∧ reporting rounds ≠ [] ∧
    Serves 11 (zerosNetwork 11) ∧
    ∃ replays, Replays pictureClient 1 (Crawl.printed .csv rounds).toUTF8.toList replays ∧
      List.Forall₂ (Repeats pictureClient) (reporting rounds) replays := by
  obtain ⟨rounds, crawls, fetch, told, few⟩ := pictureSite_crawls
  have seeds : ∀ seed ∈ Crawl.seedsOf (Lines.ofBytes "1,a://b\n".toUTF8.toList).lines,
      IsSendable seed.url.text := by decide +kernel
  have servable : ∀ round ∈ rounds, Servable 11 round := fun round member =>
    pictureSite_servable (fetch round member)
      (seeds _ (crawls.seeds ▸ List.mem_map_of_mem member)) (few round member)
  have served := zerosNetwork_serves 11
  have ⟨_, _, inOrder⟩ := replay_crawl 1 crawls servable pictureClient_usable
  obtain ⟨replays, replayed, repeats, _⟩ := inOrder _ served _ (Nat.le_refl _)
  exact ⟨rounds, crawls, servable, pictureClient_usable, told, served, replays, replayed, repeats⟩

end PageLoad.Replay
