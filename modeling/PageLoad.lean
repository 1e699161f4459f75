import PageLoad.Main
import PageLoad.Server.Answer
import PageLoad.Proofs.Work.Queue
import PageLoad.Work.Operation
import PageLoad.Proofs.Work.Notice
import PageLoad.Proofs.Work.Crew
import PageLoad.Proofs.Work.Progress
import PageLoad.Proofs.Work.Taken
import PageLoad.Crawl.Workers
import PageLoad.Proofs.Crawl.Workers
import PageLoad.Proofs.Crawl.Reach
import PageLoad.Proofs.Crawl.InOrder
import PageLoad.Proofs.Crawl.Exact
import PageLoad.Proofs.Text.Lines
import PageLoad.Proofs.Number.Digits
import PageLoad.Proofs.Number.Seconds
import PageLoad.Proofs.Text.Blank
import PageLoad.Proofs.Trace.Asset
import PageLoad.Proofs.Trace.Reader
import PageLoad.Proofs.Crawl.Path
import PageLoad.Proofs.Crawl.Reports
import PageLoad.Proofs.Fetch.Page
import PageLoad.Proofs.Trace.Recorded
import PageLoad.Proofs.Crawl.Run
import PageLoad.Replay.Workers
import PageLoad.Server.Network
import PageLoad.Proofs.Replay.Workers
import PageLoad.Proofs.Replay.Exact
import PageLoad.Proofs.Http.Field
import PageLoad.Proofs.Server.Order
import PageLoad.Proofs.Server.Answer
import PageLoad.Proofs.Replay.Requests
import PageLoad.Proofs.Replay.InOrder
import PageLoad.Proofs.Replay.Repeated
import PageLoad.Proofs.Crawl.Liveness
import PageLoad.Proofs.Crawl.Confluence
import PageLoad.Proofs.Replay.Due
import PageLoad.Proofs.Work.Singly
import PageLoad.Proofs.Crawl.Singly
import PageLoad.Proofs.Crawl.BreadthFirst
import PageLoad.Proofs.Crawl.Lineage
import PageLoad.Proofs.Replay.Ending
import PageLoad.Proofs.Replay.Unrepeated
import PageLoad.Crawl.Pool
import PageLoad.Proofs.Crawl.Pool
import PageLoad.Proofs.Crawl.PoolEnding
import PageLoad.Proofs.Crawl.Append
import PageLoad.Proofs.Work.Barrier
import PageLoad.Crawl.Action
import PageLoad.Proofs.Crawl.Offers
import PageLoad.Proofs.Crawl.Failure
import PageLoad.Proofs.Crawl.Framing
import PageLoad.Proofs.Work.Conservation
import PageLoad.Trace.Paging
import PageLoad.Proofs.Trace.Paging
import PageLoad.Trace.Index
import PageLoad.Proofs.Trace.Index
import PageLoad.Text.JsonReading
import PageLoad.Server.Body
import PageLoad.Proofs.Text.Json
import PageLoad.Proofs.Server.Acceptance
import PageLoad.Proofs.Number.Reprint
import PageLoad.Proofs.Replay.Wording
import PageLoad.Proofs.Trace.Overflow
import PageLoad.Proofs.Number.TextOrder
import PageLoad.Proofs.Trace.Siblings
import PageLoad.Proofs.Text.Junk
import PageLoad.Proofs.Url.Text
import PageLoad.Proofs.Crawl.Seed
import PageLoad.Proofs.Number.Shortest
import PageLoad.Proofs.Text.JsonNumber
import PageLoad.Proofs.Crawl.JsonLines
import PageLoad.Proofs.Html.Tag
import PageLoad.Proofs.Html.Rules
import PageLoad.Proofs.Html.Assets
