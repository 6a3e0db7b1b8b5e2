import TestSelection.Main
import TestSelection.Proofs.Glob.Hidden
import TestSelection.Proofs.Glob.Source
import TestSelection.Proofs.Plan.Contents
import TestSelection.Proofs.Glob.Joining
import TestSelection.Proofs.Pattern.Scope
import TestSelection.Proofs.Listing.Agreement
import TestSelection.Proofs.Command.Ending
import TestSelection.Proofs.Pattern.Appending
import TestSelection.Proofs.Listing.Walked
import TestSelection.Proofs.Text.Digits
import TestSelection.Proofs.Json.Leaves
import TestSelection.Proofs.Json.Values
import TestSelection.Proofs.Plan.ReadBack
import TestSelection.Proofs.Tree.Linkless
import TestSelection.Proofs.Listing.Spared
import TestSelection.Proofs.Tree.Remade
import TestSelection.Proofs.Config.FilesRead
import TestSelection.Proofs.Plan.Rewriting
import TestSelection.Proofs.Listing.Relisting
import TestSelection.Proofs.Plan.Unpicked
import TestSelection.Proofs.Command.Again
import TestSelection.Proofs.Tree.Detours
import TestSelection.Proofs.Ignore.Usable
import TestSelection.Proofs.Listing.Kept
import TestSelection.Proofs.Tree.Edited
import TestSelection.Proofs.Listing.Elsewhere
import TestSelection.Proofs.Listing.Precedence
import TestSelection.Proofs.Plan.Faults
import TestSelection.Proofs.Plan.Locality
import TestSelection.Proofs.Glob.Positions
import TestSelection.Proofs.Glob.Widening
import TestSelection.Proofs.Pattern.Reexpansion
import TestSelection.Proofs.Value.TextKeys
import TestSelection.Proofs.Config.ProfileName
import TestSelection.Proofs.Glob.DeepSource
import TestSelection.Proofs.Listing.Spelling
