import FleetView.Main
import FleetView.Proofs.History
import FleetView.Proofs.Repeats
import FleetView.Proofs.Subscriptions
import FleetView.Proofs.Confinement
import FleetView.Proofs.Hiding
import FleetView.Proofs.Summaries
import FleetView.Proofs.EventKeys
import FleetView.Proofs.Addressing
import FleetView.Proofs.Roles
import FleetView.Proofs.Privilege
import FleetView.Proofs.Sight
import FleetView.Proofs.Ownership
import FleetView.Proofs.Members
import FleetView.Proofs.Fidelity
import FleetView.Proofs.Spelling
import FleetView.Proofs.Objects
import FleetView.Proofs.Calendar
import FleetView.Proofs.Timestamps
import FleetView.Proofs.Outcomes
import FleetView.Proofs.Stamping
import FleetView.Proofs.Policies
import FleetView.Proofs.Layouts
import FleetView.Proofs.Printing
import FleetView.Proofs.Counting
import FleetView.Proofs.Reports
import FleetView.Proofs.Starting
import FleetView.Proofs.Verdict
import FleetView.Proofs.Arrivals
import FleetView.Proofs.Carriers
import FleetView.Proofs.Losses
import FleetView.Proofs.Updates
import FleetView.Proofs.Memberships
import FleetView.Proofs.Acceptance
import FleetView.Proofs.Severities
import FleetView.Proofs.Secrets
import FleetView.Proofs.Survival
import FleetView.Proofs.Rehearsal
import FleetView.Proofs.Merging
import FleetView.Proofs.Settings
import FleetView.Proofs.Variables
import FleetView.Proofs.Layering
