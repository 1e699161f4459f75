import PageLoad.Proofs.Crawl.Workers
import PageLoad.Proofs.Work.Progress
import Mathlib.Algebra.BigOperators.Group.Finset.Basic
import Mathlib.Logic.Relation

/-!
What a round fetches: the URLs that lead on from its seed, each of them once.
-/

namespace PageLoad.Fetch.Site

def urls (site : Site) (seedUrl : String) : List String := seedUrl :: site.flatMap (·.2.links)

theorem urls_length (site : Site) (seedUrl : String) : (site.urls seedUrl).length = site.size := by
  have links : (site.flatMap (·.2.links)).length + 1 = site.size := by
    induction site with
    | nil => rfl
    | cons entry site ih =>
      rw [size, List.foldr_cons, List.flatMap_cons, List.length_append, Nat.add_assoc, ih]
      rfl
  rw [urls, List.length_cons, links]

theorem mem_of_fetch {site : Site} {url : String} {page : Page} (found : site.fetch url = .page page) :
    (url, .page page) ∈ site := by
  cases known : site.lookup url with
  | none =>
    rw [fetch, known] at found
    cases found
  | some outcome =>
    rw [fetch, known] at found
    obtain ⟨before, after, split, _⟩ := List.lookup_eq_some_iff.mp known
    simp [split, found]

theorem links_subset_urls (site : Site) (seedUrl url : String) :
    (site.fetch url).links ⊆ site.urls seedUrl := by
  intro link member
  cases found : site.lookup url with
  | none =>
    rw [fetch, found] at member
    cases member
  | some outcome =>
    rw [fetch, found] at member
    obtain ⟨before, after, split, _⟩ := List.lookup_eq_some_iff.mp found
    exact List.mem_cons_of_mem _ (List.mem_flatMap.mpr ⟨(url, outcome), by simp [split], member⟩)

end PageLoad.Fetch.Site

namespace PageLoad.Crawl
open Work Fetch

variable {fetch : String → Outcome}

def Links (fetch : String → Outcome) (source target : String) : Prop :=
  ∃ page, fetch source = .page page ∧ page.contentType = "text/html" ∧
    target ∈ (Html.Assets.ofPage page.url page.body).urls.map (·.text)

theorem links_iff {source target : String} :
    Links fetch source target ↔ ∃ page, fetch source = .page page ∧ target ∈ page.links := by
  unfold Links
  refine exists_congr fun page => and_congr_right fun _ => ?_
  unfold Page.links Page.isHtml
  split <;> simp_all

/-- The URLs that a seed leads to, along any number of links. -/
def Reaches (fetch : String → Outcome) : String → String → Prop :=
  Relation.ReflTransGen (Links fetch)

/-- Some URLs are what a seed leads to, and some lines report those of them that are pages. -/
structure Exact (fetch : String → Outcome) (seedUrl : String) (fetched : List String)
    (reports : List TaskReport) : Prop where
  once : fetched.Nodup
  reached : ∀ url, url ∈ fetched ↔ Reaches fetch seedUrl url
  reportedOnce : (reports.map (·.url)).Nodup
  reported : ∀ url, url ∈ reports.map (·.url) ↔ url ∈ fetched ∧ ∃ page, fetch url = .page page

theorem TaskEnd.Sound.of_page {seen : List String} {taskEnd : TaskEnd} {page : Page}
    (sound : taskEnd.Sound fetch seen) (found : fetch taskEnd.task.url = .page page) :
    (∃ report, taskEnd = .reported report) ∧ ∀ url ∈ page.links, url ∈ seen := by
  cases taskEnd with
  | reported report =>
    obtain ⟨other, same, _, offered⟩ := sound
    cases found.symm.trans same
    exact ⟨⟨report, rfl⟩, offered⟩
  | dropped task failure => cases found.symm.trans sound
  | crashed task crash => cases found.symm.trans sound

namespace Progress

variable {seedUrl : String} {progress : Progress} {jobs : Multiset Job}

theorem Rooted.reaches (rooted : Rooted fetch seedUrl progress jobs) {task : Task}
    (member : task ∈ progress.accepted) : Reaches fetch seedUrl task.url := by
  induction depth : task.depth generalizing task with
  | zero =>
    obtain rfl | ⟨parent, _, page, index, _, _, child⟩ := rooted.descends task member
    · exact .refl
    · rw [child] at depth
      cases depth
  | succ deeper ih =>
    obtain rfl | ⟨parent, known, page, index, found, placed, child⟩ := rooted.descends task member
    · exact .refl
    · rw [child] at depth
      exact (ih known (Nat.succ.inj depth)).tail
        (links_iff.mpr ⟨page, found, List.mem_of_getElem? placed⟩)

/-- A round that has nothing left to do. -/
structure Finished (fetch : String → Outcome) (seedUrl : String) (progress : Progress) : Prop where
  rooted : Rooted fetch seedUrl progress 0
  empty : progress.round.queue.items = []

namespace Finished

theorem fetched_perm (finished : Finished fetch seedUrl progress) :
    (progress.accepted.map (·.url)).Perm progress.fetched := by
  have counted := finished.rooted.accounted.fetched
  rw [finished.empty] at counted
  simpa using counted

theorem ends_perm (finished : Finished fetch seedUrl progress) :
    progress.accepted.Perm (progress.ends.map (·.task)) := by
  have counted := finished.rooted.accounted.tasks
  rw [finished.empty] at counted
  simpa using counted

theorem exists_end (finished : Finished fetch seedUrl progress) {url : String}
    (member : url ∈ progress.fetched) : ∃ taskEnd ∈ progress.ends, taskEnd.task.url = url := by
  obtain ⟨task, known, rfl⟩ := List.mem_map.mp (finished.fetched_perm.mem_iff.mpr member)
  obtain ⟨taskEnd, present, rfl⟩ := List.mem_map.mp (finished.ends_perm.mem_iff.mp known)
  exact ⟨taskEnd, present, rfl⟩

theorem closed (finished : Finished fetch seedUrl progress) {source target : String}
    (member : source ∈ progress.fetched) (link : Links fetch source target) :
    target ∈ progress.fetched := by
  obtain ⟨taskEnd, present, rfl⟩ := finished.exists_end member
  obtain ⟨page, found, listed⟩ := links_iff.mp link
  have offered := (finished.rooted.ends taskEnd present).of_page found
  have known := (finished.rooted.accounted.seen target).mp (offered.2 target listed)
  exact finished.fetched_perm.mem_iff.mp known

theorem reports_sublist (ends : List TaskEnd) :
    ((ends.filterMap (·.report?)).map (·.url)).Sublist (ends.map (·.task.url)) := by
  induction ends with
  | nil => exact .slnil
  | cons first rest ih =>
    cases first with
    | reported report => exact ih.cons_cons _
    | dropped task failure => exact ih.cons _
    | crashed task crash => exact ih.cons _

theorem exact (finished : Finished fetch seedUrl progress) :
    Exact fetch seedUrl progress.fetched (progress.ends.filterMap (·.report?)) where
  once := finished.fetched_perm.nodup_iff.mp finished.rooted.accounted.distinct
  reached url := by
    constructor
    · intro member
      obtain ⟨task, known, rfl⟩ := List.mem_map.mp (finished.fetched_perm.mem_iff.mpr member)
      exact finished.rooted.reaches known
    · intro reached
      induction reached with
      | refl =>
        have root := List.mem_map_of_mem (f := (·.url)) finished.rooted.root
        exact finished.fetched_perm.mem_iff.mp root
      | tail _ link ih => exact finished.closed ih link
  reportedOnce := by
    have distinct := (finished.ends_perm.map (·.url)).nodup_iff.mp finished.rooted.accounted.distinct
    rw [List.map_map] at distinct
    exact distinct.sublist (reports_sublist progress.ends)
  reported url := by
    simp only [List.mem_map, List.mem_filterMap]
    constructor
    · rintro ⟨report, ⟨taskEnd, member, known⟩, rfl⟩
      obtain rfl : taskEnd = .reported report := by
        cases taskEnd <;> simp_all [TaskEnd.report?]
      obtain ⟨page, found, _⟩ := finished.rooted.ends _ member
      have task := finished.ends_perm.mem_iff.mpr (List.mem_map_of_mem (f := (·.task)) member)
      exact ⟨finished.fetched_perm.mem_iff.mp (List.mem_map_of_mem (f := (·.url)) task), page, found⟩
    · rintro ⟨member, page, found⟩
      obtain ⟨taskEnd, present, rfl⟩ := finished.exists_end member
      obtain ⟨⟨report, rfl⟩, _⟩ := (finished.rooted.ends taskEnd present).of_page found
      exact ⟨report, ⟨_, present, rfl⟩, rfl⟩

end Finished

end Progress

/-! A round ends, because there are only so many URLs that a page can lead to. -/

/-- Some URLs among which a round stays. -/
structure Covers (fetch : String → Outcome) (seedUrl : String) (urls : List String) : Prop where
  seed : seedUrl ∈ urls
  links : ∀ url, (fetch url).links ⊆ urls

theorem Site.covers (site : Site) (seedUrl : String) :
    Covers site.fetch seedUrl (site.urls seedUrl) :=
  ⟨List.mem_cons_self, site.links_subset_urls seedUrl⟩

namespace Job

def cost (fetch : String → Outcome) : Job → Nat
  | .fetch task => (fetch task.url).links.length + 2
  | .offer _ _ _ rest => rest.length + 1
  | .conclude _ => 0

theorem cost_ofOutcome_lt (fetch : String → Outcome) (task : Task) :
    (ofOutcome task (fetch task.url)).cost fetch + 1 ≤ (Job.fetch task).cost fetch := by
  cases found : fetch task.url <;> simp [ofOutcome, cost, found, Outcome.links]

end Job

namespace Progress

theorem Rooted.holds_url {seedUrl : String} {progress : Progress} {jobs : Multiset Job}
    (rooted : Rooted fetch seedUrl progress jobs) {Holds : String → Prop} (seed : Holds seedUrl)
    (links : ∀ task ∈ progress.accepted, ∀ page, fetch task.url = .page page →
      ∀ link ∈ page.links, Holds link) {task : Task} (member : task ∈ progress.accepted) :
    Holds task.url := by
  obtain rfl | ⟨parent, known, page, index, found, placed, _⟩ := rooted.descends task member
  · exact seed
  · exact links parent known page found task.url (List.mem_of_getElem? placed)

theorem Rooted.accepted_length_le {seedUrl : String} {urls : List String} {progress : Progress}
    {jobs : Multiset Job} (rooted : Rooted fetch seedUrl progress jobs)
    (covers : Covers fetch seedUrl urls) : progress.accepted.length ≤ urls.length := by
  have inside : progress.accepted.map (·.url) ⊆ urls := by
    intro url member
    obtain ⟨task, known, rfl⟩ := List.mem_map.mp member
    refine rooted.holds_url covers.seed (fun parent _ page found link listed => ?_) known
    exact covers.links parent.url (by rw [found]; exact listed)
  have few := rooted.accounted.distinct.length_le_of_subset inside
  rwa [List.length_map] at few

/-- What the URLs that have not been seen yet may cost. -/
def budget (fetch : String → Outcome) (urls : List String) (progress : Progress) : Nat :=
  ∑ url ∈ urls.toFinset with url ∉ progress.round.seen, ((fetch url).links.length + 14)

theorem budget_new (fetch : String → Outcome) {urls : List String} {url : String}
    (covered : url ∈ urls) {progress : Progress} (next : Progress) (new : url ∉ progress.round.seen)
    (seen : next.round.seen = url :: progress.round.seen) :
    next.budget fetch urls + ((fetch url).links.length + 14) = progress.budget fetch urls := by
  have left : {other ∈ urls.toFinset | other ∉ next.round.seen} =
      {other ∈ urls.toFinset | other ∉ progress.round.seen}.erase url := by
    ext other
    simp only [seen, List.mem_cons, Finset.mem_filter, Finset.mem_erase]
    tauto
  rw [budget, left, Finset.sum_erase_add _ _ (by simp [covered, new])]
  rfl

theorem spends {seedUrl : String} {urls : List String} (covers : Covers fetch seedUrl urls) :
    (trade fetch).Spends (Rooted fetch seedUrl) (Job.cost fetch) (budget fetch urls) where
  keep _ _ := rfl
  act {progress job jobs} rooted := by
    cases job with
    | fetch task =>
      have less := Job.cost_ofOutcome_lt fetch task
      exact ⟨[], rfl, Nat.add_le_add_left less _⟩
    | offer task page index rest =>
      cases rest with
      | nil => exact ⟨[], rfl, Nat.le_refl _⟩
      | cons url rest =>
        obtain ⟨found, left, _⟩ := rooted.jobs _ (Multiset.mem_cons_self _ _)
        have listed : url ∈ page.links := List.mem_of_mem_drop (left ▸ List.mem_cons_self)
        have covered := covers.links task.url (by rw [found]; exact listed)
        obtain ⟨_, known⟩ | ⟨new, offered⟩ := progress.offer_cases (task.child index url)
        · refine ⟨[], ?_, ?_⟩
          · exact congrArg (·.round.queue) known
          · change budget fetch urls (progress.offer (task.child index url)) + 0 + _ ≤ _
            rw [known]
            exact Nat.le_refl _
        · refine ⟨[task.child index url], ?_, ?_⟩
          · exact congrArg (·.round.queue) offered
          · have spent := budget_new fetch covered (progress.offer (task.child index url)) new
              (by rw [offered]; rfl)
            simp only [trade, act, Option.elim, List.map_cons, List.map_nil, List.sum_singleton,
              Job.cost, List.length_cons, Task.child] at spent ⊢
            omega
    | conclude taskEnd => exact ⟨[], rfl, Nat.le_refl _⟩

end Progress

end PageLoad.Crawl
