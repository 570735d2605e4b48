import FlexGrid.Main
import FlexGrid.Command.World
import FlexGrid.Serial.Row
import FlexGrid.Layout.Box
import FlexGrid.Layout.Calc.Reader
import FlexGrid.Stylesheet.Reader
import FlexGrid.Proofs.Layout.Compile
import FlexGrid.Proofs.Layout.Numbering
import FlexGrid.Proofs.Layout.Crowding
import FlexGrid.Proofs.Layout.Alignment
import FlexGrid.Proofs.Layout.Lines
import FlexGrid.Proofs.Layout.Margins
import FlexGrid.Proofs.Layout.Stacking
import FlexGrid.Proofs.Layout.Bounds
import FlexGrid.Proofs.Layout.Calc.Reading
import FlexGrid.Proofs.Layout.Extent
import FlexGrid.Proofs.Layout.Independence
import FlexGrid.Proofs.Layout.Singles
import FlexGrid.Proofs.Stylesheet.Zeros
import FlexGrid.Proofs.Row.Tidying
import FlexGrid.Proofs.Spec.ListForm
import FlexGrid.Proofs.Command.Outcome
import FlexGrid.Proofs.Serial.Layouts
import FlexGrid.Proofs.Stylesheet.Declarations
import FlexGrid.Proofs.Length.Literals
import FlexGrid.Proofs.Length.Printing
import FlexGrid.Proofs.Spec.Faults
import FlexGrid.Proofs.Stylesheet.Reading
import FlexGrid.Proofs.Row.Scanning
import FlexGrid.Proofs.Row.Words
import FlexGrid.Proofs.Settings.Layers
