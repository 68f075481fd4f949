import OrderLookup.Main
import OrderLookup.Proofs.App.Outcomes
import OrderLookup.Proofs.App.Override
import OrderLookup.Proofs.Calendar.FixedClock
import OrderLookup.Proofs.Calendar.Instant
import OrderLookup.Proofs.Calendar.Retyped
import OrderLookup.Proofs.Calendar.Shape
import OrderLookup.Proofs.Order.Document
import OrderLookup.Proofs.Order.Forms
import OrderLookup.Proofs.Page.Details
import OrderLookup.Proofs.Page.Faithful
import OrderLookup.Proofs.Page.History
import OrderLookup.Proofs.Page.Inquiries
import OrderLookup.Proofs.Page.Location
import OrderLookup.Proofs.Page.Rerender
import OrderLookup.Proofs.Page.Search
import OrderLookup.Proofs.Service.BasePath
import OrderLookup.Proofs.Service.Classification
import OrderLookup.Proofs.Json.Extension
import OrderLookup.Proofs.Json.Masked
import OrderLookup.Proofs.Json.Passable
import OrderLookup.Proofs.Page.Edits
import OrderLookup.Proofs.Page.Truncation
import OrderLookup.Proofs.Service.Complaint
import OrderLookup.Proofs.Service.Timing
import OrderLookup.Proofs.Page.Items
import OrderLookup.Proofs.Calendar.ZoneRule
