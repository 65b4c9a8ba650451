import NameAuction.Auction
import NameAuction.Binary.Basic
import NameAuction.Binary.Message
import NameAuction.Binary.Record
import NameAuction.Bundle
import NameAuction.Bytes
import NameAuction.Coin
import NameAuction.Command
import NameAuction.Defect
import NameAuction.Demo.Accounts
import NameAuction.Demo.Config
import NameAuction.Demo.Script
import NameAuction.Escrow.Bank
import NameAuction.Escrow.Vault
import NameAuction.Event.Basic
import NameAuction.Event.Layout
import NameAuction.Event.Log
import NameAuction.Fault
import NameAuction.Genesis.Basic
import NameAuction.Genesis.Load
import NameAuction.Hash.Blake3
import NameAuction.Hash.Block
import NameAuction.Hash.Sha256
import NameAuction.Hex
import NameAuction.Id
import NameAuction.Json.Basic
import NameAuction.Json.Form
import NameAuction.Json.Message
import NameAuction.Json.Parser
import NameAuction.Json.Printer
import NameAuction.Json.Record
import NameAuction.Name
import NameAuction.Overflow
import NameAuction.Params
import NameAuction.Proofs.Binary.ReadBack
import NameAuction.Proofs.Command
import NameAuction.Proofs.Escrow.Amounts
import NameAuction.Proofs.Escrow.Funds
import NameAuction.Proofs.Escrow.Stages
import NameAuction.Proofs.Escrow.Worth
import NameAuction.Proofs.Genesis.Export
import NameAuction.Proofs.Genesis.Seed
import NameAuction.Proofs.Levels
import NameAuction.Proofs.Registrar.Alone
import NameAuction.Proofs.Registrar.Atomic
import NameAuction.Proofs.Registrar.Auctions
import NameAuction.Proofs.Registrar.Backing
import NameAuction.Proofs.Registrar.Call
import NameAuction.Proofs.Registrar.Handled
import NameAuction.Proofs.Registrar.Liability
import NameAuction.Proofs.Registrar.Lossless
import NameAuction.Proofs.Registrar.Pairing
import NameAuction.Proofs.Registrar.Payout
import NameAuction.Proofs.Registrar.Queues
import NameAuction.Proofs.Registrar.Reachable
import NameAuction.Proofs.Registrar.Reveal
import NameAuction.Proofs.Registrar.Root
import NameAuction.Proofs.Registrar.Settled
import NameAuction.Proofs.Registrar.Solvency
import NameAuction.Proofs.Registrar.Stakes
import NameAuction.Proofs.Registrar.Step
import NameAuction.Proofs.Registrar.Swept
import NameAuction.Proofs.Store.Book
import NameAuction.Proofs.Store.Contents
import NameAuction.Proofs.Store.Layers
import NameAuction.Proofs.Store.Listing
import NameAuction.Proofs.Store.Slot
import NameAuction.Proofs.Store.Span
import NameAuction.Query
import NameAuction.Rates
import NameAuction.Registrar.Basic
import NameAuction.Registrar.Handlers
import NameAuction.Registrar.Sweep
import NameAuction.Registrar.Turn
import NameAuction.Renewal
import NameAuction.Store.Basic
import NameAuction.Store.Digest
import NameAuction.Store.Disk
import NameAuction.Store.Key
import NameAuction.Store.Queue
import NameAuction.Store.Record
import NameAuction.Text.Normal
import NameAuction.Text.NormalData
import NameAuction.Text.Quoted
import NameAuction.Text.Unprintable
import NameAuction.Word
import NameAuction.Main
import NameAuction.Proofs.Registrar.ByName
import NameAuction.Proofs.Registrar.Lifecycle
import NameAuction.Proofs.Registrar.Records
import NameAuction.Proofs.Registrar.Resolutions
import NameAuction.Proofs.Registrar.Consistency
import NameAuction.Proofs.Registrar.History
import NameAuction.Proofs.Registrar.Told
import NameAuction.Proofs.Registrar.TopBid
import NameAuction.Proofs.Registrar.Denominations
import NameAuction.Proofs.Registrar.Ownership
import NameAuction.Proofs.Registrar.BidFate
import NameAuction.Proofs.Registrar.Burns
import NameAuction.Proofs.Registrar.Footprint
import NameAuction.Proofs.Registrar.Locality
import NameAuction.Proofs.Registrar.Independence
import NameAuction.Proofs.Registrar.RevealOrder
import NameAuction.Proofs.Commitment
import NameAuction.Proofs.Defects
import NameAuction.Proofs.Registrar.Opening
import NameAuction.Proofs.Registrar.NewParams
import NameAuction.Proofs.Registrar.Defects
import NameAuction.Proofs.Event.History
import NameAuction.Proofs.Binary.Events
import NameAuction.Proofs.Event.Tampering
import NameAuction.Proofs.Store.Collections
import NameAuction.Proofs.Genesis.Sorted
import NameAuction.Proofs.Registrar.Logged
import NameAuction.Proofs.Store.Queue
import NameAuction.Proofs.Store.Search
import NameAuction.Proofs.Registrar.Passes
import NameAuction.Proofs.Registrar.Idempotence
import NameAuction.Proofs.Bundle
import NameAuction.Proofs.Rates
import NameAuction.Proofs.Renewal
import NameAuction.Proofs.Escrow.Conservation
import NameAuction.Proofs.Name
import NameAuction.Proofs.Store.Digest
import NameAuction.Proofs.Demo.Funding
import NameAuction.Proofs.Json.Token
import NameAuction.Proofs.Json.ReadBack
import NameAuction.Proofs.Json.Values
import NameAuction.Proofs.Json.Message
import NameAuction.Proofs.Store.Stem
