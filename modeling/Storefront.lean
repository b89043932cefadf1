import Storefront.Address
import Storefront.Arithmetic
import Storefront.Cart.Basic
import Storefront.Cart.Replacement
import Storefront.Cart.Storage
import Storefront.Catalog.Pricing
import Storefront.Catalog.Product
import Storefront.Catalog.Stock
import Storefront.Decimal.Basic
import Storefront.Decimal.Rounding
import Storefront.Decimal.Text
import Storefront.Error
import Storefront.Event
import Storefront.Http.Body
import Storefront.Http.Decoder
import Storefront.Http.Identity
import Storefront.Http.MediaType
import Storefront.Http.Message
import Storefront.Http.Query
import Storefront.Http.Route
import Storefront.Http.Service
import Storefront.Identifier
import Storefront.Instant.Basic
import Storefront.Instant.Text
import Storefront.Json.Binary64
import Storefront.Json.Printer
import Storefront.Json.Reader
import Storefront.Json.Rows
import Storefront.Json.Token
import Storefront.Json.Value
import Storefront.Order.Basic
import Storefront.Order.Cancellation
import Storefront.Order.Checkout
import Storefront.Order.Fulfilment
import Storefront.Order.Lines
import Storefront.Order.Listing
import Storefront.Order.Status
import Storefront.Order.Storage
import Storefront.Payment.Basic
import Storefront.Payment.Confirmation
import Storefront.Payment.Intent
import Storefront.Payment.Refund
import Storefront.Payment.Status
import Storefront.Payment.Storage
import Storefront.Proofs.Cart.Lines
import Storefront.Proofs.Cart.Operations
import Storefront.Proofs.Cart.Reading
import Storefront.Proofs.Cart.Replacement
import Storefront.Proofs.Cart.Upserts
import Storefront.Proofs.Catalog.Availability
import Storefront.Proofs.Catalog.Balance
import Storefront.Proofs.Catalog.Conservation
import Storefront.Proofs.Catalog.Discounts
import Storefront.Proofs.Catalog.FinalPrices
import Storefront.Proofs.Catalog.Pricing
import Storefront.Proofs.Catalog.Reservations
import Storefront.Proofs.Catalog.Rounding
import Storefront.Proofs.Catalog.Supply
import Storefront.Proofs.Http.Identity
import Storefront.Proofs.Lists
import Storefront.Proofs.Order.Admission
import Storefront.Proofs.Order.Amendment
import Storefront.Proofs.Order.Cancellation
import Storefront.Proofs.Order.Checkout
import Storefront.Proofs.Order.Coherence
import Storefront.Proofs.Order.Commutation
import Storefront.Proofs.Order.Composition
import Storefront.Proofs.Order.DirectCheckout
import Storefront.Proofs.Order.Fulfilment
import Storefront.Proofs.Order.LifeCycle
import Storefront.Proofs.Order.Pages
import Storefront.Proofs.Order.Quantities
import Storefront.Proofs.Order.Reading
import Storefront.Proofs.Order.Refusals
import Storefront.Proofs.Order.Sources
import Storefront.Proofs.Order.Totals
import Storefront.Proofs.Order.Withdrawal
import Storefront.Proofs.Payment.CancelledOrders
import Storefront.Proofs.Payment.LifeCycle
import Storefront.Proofs.Payment.Operations
import Storefront.Proofs.Payment.References
import Storefront.Proofs.Payment.Refunds
import Storefront.Proofs.Payment.Rows
import Storefront.Proofs.Payment.Settlement
import Storefront.Proofs.Purchase.Agreement
import Storefront.Proofs.Purchase.Amounts
import Storefront.Proofs.Purchase.Backing
import Storefront.Proofs.Purchase.Callbacks
import Storefront.Proofs.Purchase.Completion
import Storefront.Proofs.Purchase.Evolution
import Storefront.Proofs.Purchase.Feasibility
import Storefront.Proofs.Purchase.Interruption
import Storefront.Proofs.Purchase.Moves
import Storefront.Proofs.Purchase.PaidOnce
import Storefront.Proofs.Purchase.RefundMarks
import Storefront.Proofs.Purchase.Resolution
import Storefront.Proofs.Purchase.StatusChanges
import Storefront.Proofs.Service.Answers
import Storefront.Proofs.Service.Atomicity
import Storefront.Proofs.Service.Belonging
import Storefront.Proofs.Service.Effects
import Storefront.Proofs.Service.EventLog
import Storefront.Proofs.Service.Gates
import Storefront.Proofs.Service.History
import Storefront.Proofs.Service.Isolation
import Storefront.Proofs.Service.Limits
import Storefront.Proofs.Service.Numbering
import Storefront.Proofs.Service.Ownership
import Storefront.Proofs.Service.Refusals
import Storefront.Proofs.Service.Replies
import Storefront.Proofs.Service.Scope
import Storefront.Proofs.Session.Failures
import Storefront.Proofs.Session.Returns
import Storefront.Proofs.Session.Scope
import Storefront.Proofs.Store.Rows
import Storefront.Proofs.Store.Storage
import Storefront.Proofs.Text.Numerals
import Storefront.Service.Operation
import Storefront.Service.Run
import Storefront.Settings
import Storefront.Sorting
import Storefront.Store.Column
import Storefront.Store.Seed
import Storefront.Store.Session
import Storefront.Store.Table
import Storefront.Store.Tables
import Storefront.Text.Blank
import Storefront.Text.Digits
import Storefront.Text.LetterCase
import Storefront.Text.Lowercase
import Storefront.Text.Percent
import Storefront.Text.Split
import Storefront.Uuid
import Storefront.Words
