import PageLoad.Proofs.Crawl.Singly

/-!
A round that is worked through in order is a breadth-first search: its tasks come in the order of
their depths, and the depth of a task is the distance of its URL from the seed.
-/

namespace PageLoad.Crawl
open Work Fetch

variable {fetch : String → Outcome} {seedUrl : String}

inductive Chain (fetch : String → Outcome) : Nat → String → String → Prop where
  | nil (url : String) : Chain fetch 0 url url
  | snoc {length : Nat} {source middle target : String} (chain : Chain fetch length source middle)
    (link : Links fetch middle target) : Chain fetch (length + 1) source target

/-- How many links there are in a shortest chain. -/
structure IsDistance (fetch : String → Outcome) (source target : String) (distance : Nat) : Prop where
  chain : Chain fetch distance source target
  least : ∀ length, Chain fetch length source target → distance ≤ length

/-- How a task comes up after some others: as the root if there are none, and else for an asset of the
first page among them that loads it, in the first position. -/
def Task.Discovered (fetch : String → Outcome) (seedUrl : String) (before : List Task)
    (task : Task) : Prop :=
  (before = [] ∧ task = Task.root seedUrl) ∨
    ∃ earlier parent later page, before = earlier ++ parent :: later ∧
      fetch parent.url = .page page ∧ task.url ∈ page.links ∧
      task = parent.child (page.links.idxOf task.url) task.url ∧
      ∀ other ∈ earlier, ¬ Links fetch other.url task.url

def Task.Settled (fetch : String → Outcome) (tasks : List Task) (task : Task) : Prop :=
  ∀ link, Links fetch task.url link →
    ∃ other ∈ tasks, other.url = link ∧ other.depth ≤ task.depth + 1

theorem Task.Settled.mono {tasks more : List Task} {task : Task} (settled : task.Settled fetch tasks)
    (kept : tasks ⊆ more) : task.Settled fetch more := by
  intro link loads
  obtain ⟨other, member, named, near⟩ := settled link loads
  exact ⟨other, kept member, named, near⟩

/-- The tasks of a search in the order in which they came up, and the URLs that have been seen. -/
structure Search (fetch : String → Outcome) (seedUrl : String) (tasks : List Task)
    (seen : List String) : Prop where
  seen : ∀ url, url ∈ seen ↔ url ∈ tasks.map (·.url)
  distinct : (tasks.map (·.url)).Nodup
  discovered : ∀ before task after, tasks = before ++ task :: after →
    task.Discovered fetch seedUrl before
  sorted : (tasks.map (·.depth)).Pairwise (· ≤ ·)

namespace Search

variable {tasks : List Task} {seen : List String} {task : Task}

theorem start (fetch : String → Outcome) (seedUrl : String) :
    Search fetch seedUrl [Task.root seedUrl] [seedUrl] := by
  refine ⟨by simp [Task.root], List.nodup_singleton _, ?_, List.pairwise_singleton _ _⟩
  intro before task after split
  cases before with
  | nil => exact .inl ⟨rfl, (List.cons.inj split).1.symm⟩
  | cons first rest => simp at split

theorem add (search : Search fetch seedUrl tasks seen) (new : task.url ∉ seen)
    (discovered : task.Discovered fetch seedUrl tasks)
    (deepest : ∀ other ∈ tasks, other.depth ≤ task.depth) :
    Search fetch seedUrl (tasks ++ [task]) (task.url :: seen) := by
  refine ⟨?_, ?_, ?_, ?_⟩
  · intro url
    simp [search.seen url, or_comm]
  · rw [List.map_append, List.nodup_append]
    refine ⟨search.distinct, List.nodup_singleton _, ?_⟩
    rintro url old _ only rfl
    have same : url = task.url := List.mem_singleton.mp only
    exact new (same ▸ (search.seen url).mpr old)
  · intro before other after split
    obtain rfl | ⟨front, last, rfl⟩ := List.eq_nil_or_concat after
    · obtain ⟨rfl, same⟩ := List.append_inj' split rfl
      exact (List.cons.inj same).1 ▸ discovered
    · rw [List.concat_eq_append, ← List.cons_append, ← List.append_assoc] at split
      exact search.discovered before other front (List.append_inj' split rfl).1
  · rw [List.map_append, List.pairwise_append]
    refine ⟨search.sorted, List.pairwise_singleton _ _, ?_⟩
    intro depth old _ only
    obtain ⟨other, member, rfl⟩ := List.mem_map.mp old
    exact List.mem_singleton.mp only ▸ deepest other member

theorem chain (search : Search fetch seedUrl tasks seen) (member : task ∈ tasks) :
    Chain fetch task.depth seedUrl task.url := by
  induction depth : task.depth generalizing task with
  | zero =>
    obtain ⟨before, after, split⟩ := List.append_of_mem member
    obtain ⟨_, rfl⟩ | ⟨_, parent, _, _, _, _, _, child, _⟩ := search.discovered before task after split
    · exact .nil seedUrl
    · rw [child] at depth
      cases depth
  | succ deeper ih =>
    obtain ⟨before, after, split⟩ := List.append_of_mem member
    obtain ⟨_, rfl⟩ | ⟨earlier, parent, later, page, front, found, loaded, child, _⟩ :=
      search.discovered before task after split
    · cases depth
    · have known : parent ∈ tasks := by simp [split, front]
      rw [child] at depth
      exact .snoc (ih known (Nat.succ.inj depth)) (links_iff.mpr ⟨page, found, loaded⟩)

theorem root_mem (search : Search fetch seedUrl tasks seen) (some : tasks ≠ []) :
    Task.root seedUrl ∈ tasks := by
  obtain ⟨first, rest, rfl⟩ := List.exists_cons_of_ne_nil some
  obtain ⟨_, rfl⟩ | ⟨earlier, _, _, _, front, _⟩ := search.discovered [] first rest rfl
  · exact List.mem_cons_self
  · cases earlier <;> cases front

theorem eq_of_url (search : Search fetch seedUrl tasks seen) {other : Task} (member : task ∈ tasks)
    (present : other ∈ tasks) (same : task.url = other.url) : task = other :=
  List.inj_on_of_nodup_map search.distinct member present same

theorem isDistance (search : Search fetch seedUrl tasks seen)
    (settled : ∀ task ∈ tasks, task.Settled fetch tasks) (member : task ∈ tasks) :
    IsDistance fetch seedUrl task.url task.depth := by
  have reached {length : Nat} {target : String} (chain : Chain fetch length seedUrl target) :
      ∃ other ∈ tasks, other.url = target ∧ other.depth ≤ length := by
    generalize start : seedUrl = source at chain
    induction chain with
    | nil =>
      exact ⟨_, search.root_mem (List.ne_nil_of_mem member), start, Nat.le_refl _⟩
    | snoc _ link ih =>
      obtain ⟨other, known, rfl, near⟩ := ih start
      obtain ⟨next, present, named, nearby⟩ := settled other known _ link
      exact ⟨next, present, named, Nat.le_trans nearby (Nat.succ_le_succ near)⟩
  refine ⟨search.chain member, fun length chain => ?_⟩
  obtain ⟨other, present, named, near⟩ := reached chain
  exact search.eq_of_url member present named.symm ▸ near

end Search

/-! What holds between two tasks, and while the assets of a page are offered. -/

/-- Some tasks have been done, and those that are queued lie in at most two levels. -/
structure Visited (fetch : String → Outcome) (seedUrl : String) (done : List Task) (round : Round) :
    Prop where
  search : Search fetch seedUrl (done ++ round.queue.items) round.seen
  settled : ∀ task ∈ done, task.Settled fetch (done ++ round.queue.items)
  near : ∀ first rest, round.queue.items = first :: rest →
    ∀ other ∈ rest, other.depth ≤ first.depth + 1

/-- A task is under way after some others have been done, and those that are queued are at most one
level below it. -/
structure Visiting (fetch : String → Outcome) (seedUrl : String) (done : List Task) (task : Task)
    (round : Round) : Prop where
  search : Search fetch seedUrl (done ++ task :: round.queue.items) round.seen
  settled : ∀ other ∈ done, other.Settled fetch (done ++ task :: round.queue.items)
  near : ∀ other ∈ round.queue.items, other.depth ≤ task.depth + 1

theorem Visited.start (fetch : String → Outcome) (rank seedUrl : String) :
    Visited fetch seedUrl [] (Round.start rank seedUrl) := by
  refine ⟨Search.start fetch seedUrl, fun _ none => (List.not_mem_nil none).elim, ?_⟩
  intro first rest items other member
  cases items
  cases member

theorem Visited.take {done : List Task} {round : Round} {task : Task} {rest : List Task}
    (visited : Visited fetch seedUrl done round) (items : round.queue.items = task :: rest) :
    Visiting fetch seedUrl done task { round with queue := { round.queue with items := rest } } := by
  have ⟨search, settled, near⟩ := visited
  rw [items] at search settled
  exact ⟨search, settled, near task rest items⟩

namespace Visiting

variable {done : List Task} {task : Task} {round : Round}

theorem depth_le (visiting : Visiting fetch seedUrl done task round) {other : Task}
    (member : other ∈ done ++ task :: round.queue.items) : other.depth ≤ task.depth + 1 := by
  have sorted := visiting.search.sorted
  rw [List.map_append, List.map_cons, List.pairwise_append] at sorted
  rcases List.mem_append.mp member with old | here
  · have above := sorted.2.2 _ (List.mem_map_of_mem old) _ List.mem_cons_self
    exact Nat.le_succ_of_le above
  · rcases List.mem_cons.mp here with rfl | queued
    · exact Nat.le_succ _
    · exact visiting.near other queued

theorem offer (visiting : Visiting fetch seedUrl done task round) {page : Page}
    (found : fetch task.url = .page page) {index : Nat} {url : String}
    (placed : page.links[index]? = some url) (earlier : ∀ link ∈ page.links.take index, link ∈ round.seen) :
    Visiting fetch seedUrl done task (round.offer (task.child index url)).1 ∧
      ∀ link ∈ page.links.take (index + 1), link ∈ (round.offer (task.child index url)).1.seen := by
  have ⟨inside, same⟩ := List.getElem?_eq_some_iff.mp placed
  have taken : page.links.take (index + 1) = page.links.take index ++ [url] := by
    rw [← List.take_concat_get' _ _ inside, same]
  obtain ⟨known, kept⟩ | ⟨new, queued⟩ := round.offer_cases (task.child index url)
  · rw [kept, taken]
    refine ⟨visiting, fun link member => ?_⟩
    rcases List.mem_append.mp member with before | here
    · exact earlier link before
    · exact List.mem_singleton.mp here ▸ known
  · have unseen : url ∉ round.seen := new
    have first : page.links.idxOf url = index := by
      have absent : url ∉ page.links.take index := fun before => unseen (earlier url before)
      rw [← List.take_append_drop index page.links, List.idxOf_append_of_notMem absent,
        List.drop_eq_getElem_cons inside, same, List.idxOf_cons_self, List.length_take]
      omega
    have discovered : (task.child index url).Discovered fetch seedUrl
        (done ++ task :: round.queue.items) := by
      refine .inr ⟨done, task, round.queue.items, page, rfl, found, ?_, ?_, ?_⟩
      · exact List.mem_of_getElem? placed
      · change task.child index url = task.child (page.links.idxOf url) url
        rw [first]
      · intro other member link
        obtain ⟨holder, present, named, _⟩ := visiting.settled other member url link
        exact unseen ((visiting.search.seen url).mpr (List.mem_map.mpr ⟨holder, present, named⟩))
    have items : done ++ task :: (round.queue.items ++ [task.child index url]) =
        done ++ task :: round.queue.items ++ [task.child index url] := by simp
    rw [queued, taken]
    refine ⟨⟨?_, ?_, ?_⟩, ?_⟩
    · rw [Queue.push_items, items]
      exact visiting.search.add new discovered fun other member => visiting.depth_le member
    · intro other member
      rw [Queue.push_items, items]
      exact (visiting.settled other member).mono (List.subset_append_left _ _)
    · intro other member
      rw [Queue.push_items, List.mem_append] at member
      rcases member with old | new
      · exact visiting.near other old
      · exact List.mem_singleton.mp new ▸ Nat.le_refl _
    · intro link member
      rcases List.mem_append.mp member with before | here
      · exact List.mem_cons_of_mem _ (earlier link before)
      · exact List.mem_singleton.mp here ▸ List.mem_cons_self

theorem offerChildren (visiting : Visiting fetch seedUrl done task round) {page : Page}
    (found : fetch task.url = .page page) {index : Nat} {rest : List String}
    (left : rest = page.links.drop index) (earlier : ∀ link ∈ page.links.take index, link ∈ round.seen) :
    Visiting fetch seedUrl done task (round.offerChildren task index rest) ∧
      ∀ link ∈ page.links, link ∈ (round.offerChildren task index rest).seen := by
  induction rest generalizing round index with
  | nil =>
    rw [List.take_of_length_le (List.drop_eq_nil_iff.mp left.symm)] at earlier
    exact ⟨visiting, earlier⟩
  | cons url rest ih =>
    have placed : page.links[index]? = some url := by
      rw [← List.head?_drop, ← left, List.head?_cons]
    have ⟨offered, seen⟩ := visiting.offer found placed earlier
    refine ih offered ?_ seen
    rw [← List.tail_drop, ← left, List.tail_cons]

theorem finish (visiting : Visiting fetch seedUrl done task round)
    (offered : ∀ link, Links fetch task.url link → link ∈ round.seen) :
    Visited fetch seedUrl (done ++ [task]) round.finish := by
  have all : done ++ task :: round.queue.items = done ++ [task] ++ round.finish.queue.items :=
    (List.append_cons _ _ _)
  refine ⟨all ▸ visiting.search, ?_, ?_⟩
  · rw [← all]
    intro other member
    rcases List.mem_append.mp member with old | here
    · exact visiting.settled other old
    · intro link loads
      rw [List.mem_singleton.mp here] at loads ⊢
      obtain ⟨holder, present, named⟩ :=
        List.mem_map.mp ((visiting.search.seen link).mp (offered link loads))
      exact ⟨holder, present, named, visiting.depth_le present⟩
  · intro first rest items other member
    change round.queue.items = first :: rest at items
    have sorted := visiting.search.sorted
    rw [items, List.map_append, List.map_cons, List.map_cons, List.pairwise_append,
      List.pairwise_cons] at sorted
    have below := sorted.2.1.1 first.depth List.mem_cons_self
    have close := visiting.near other (items ▸ List.mem_cons_of_mem _ member)
    omega

theorem process (visiting : Visiting fetch seedUrl done task round) :
    Visited fetch seedUrl (done ++ [task]) (round.process task (fetch task.url)).1.finish := by
  cases found : fetch task.url with
  | page page =>
    obtain ⟨offered, seen⟩ := visiting.offerChildren found (List.drop_zero (l := page.links)).symm
      fun link none => (List.not_mem_nil none).elim
    have recorded : Visiting fetch seedUrl done task
        ((round.offerChildren task 0 page.links).record page.body.length) :=
      ⟨offered.search, offered.settled, offered.near⟩
    refine recorded.finish fun link loads => ?_
    obtain ⟨other, same, member⟩ := links_iff.mp loads
    cases found.symm.trans same
    exact seen link member
  | failed failure =>
    refine visiting.finish fun link loads => ?_
    obtain ⟨page, same, _⟩ := links_iff.mp loads
    cases found.symm.trans same
  | crashed crash =>
    refine visiting.finish fun link loads => ?_
    obtain ⟨page, same, _⟩ := links_iff.mp loads
    cases found.symm.trans same

end Visiting

theorem Visited.drain {done : List Task} {round : Round} (visited : Visited fetch seedUrl done round)
    (limit : Nat) :
    Visited fetch seedUrl (done ++ (round.drain fetch limit).2.map (·.task)) (round.drain fetch limit).1 := by
  induction limit generalizing done round with
  | zero =>
    rw [Round.drain, List.map_nil, List.append_nil]
    exact visited
  | succ limit ih =>
    cases items : round.queue.items with
    | nil =>
      rw [Round.drain_of_empty fetch items, List.map_nil, List.append_nil]
      exact visited
    | cons task rest =>
      have worked := ih (visited.take items).process
      rw [Round.drain_of_items fetch items, List.map_cons, List.append_cons, Round.work,
        Round.process_task]
      exact worked

theorem drained_visited {urls : List String} (covers : Covers fetch seedUrl urls) {limit : Nat}
    (room : urls.length ≤ limit) (rank : String) :
    ∃ seen, Search fetch seedUrl (((Round.start rank seedUrl).drain fetch limit).2.map (·.task)) seen ∧
      ∀ task ∈ ((Round.start rank seedUrl).drain fetch limit).2.map (·.task),
        task.Settled fetch (((Round.start rank seedUrl).drain fetch limit).2.map (·.task)) := by
  have ⟨search, settled, _⟩ := (Visited.start fetch rank seedUrl).drain limit
  rw [drain_empties covers room, List.append_nil, List.nil_append] at search settled
  exact ⟨_, search, settled⟩

/-- A round that is worked through in order fetches pages in the order of their depths, which are their
distances from the seed along links. So it is with any number of workers of whom no two are busy at the
same time. -/
theorem depth_isDistance (site : Site) (workers : Nat) (seed : Seed) :
    EndsInOrder site.fetch seed (poolSize workers)
      ((runRound site.fetch site.size seed).filterMap (·.end?)) ∧
    (runRound site.fetch site.size seed).filterMap (·.fetched?) =
      ((runRound site.fetch site.size seed).filterMap (·.end?)).map (·.task.url) ∧
    (((runRound site.fetch site.size seed).filterMap (·.end?)).map (·.task.depth)).Pairwise (· ≤ ·) ∧
    ∀ taskEnd ∈ (runRound site.fetch site.size seed).filterMap (·.end?),
      IsDistance site.fetch seed.url.text taskEnd.task.url taskEnd.task.depth := by
  refine ⟨runRound_endsInOrder site workers seed, ?_, ?_, ?_⟩
  all_goals rw [runRound_ends]
  · exact runRound_fetched site.size seed
  all_goals
    obtain ⟨seen, search, settled⟩ := drained_visited (Site.covers site seed.url.text)
      (Nat.le_of_eq (site.urls_length _)) seed.rank
  · rw [← Function.comp_def Task.depth, ← List.map_map]
    exact search.sorted
  · intro taskEnd member
    exact search.isDistance settled (List.mem_map_of_mem member)

end PageLoad.Crawl
