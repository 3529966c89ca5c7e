import Kryoptic.Interface
import Kryoptic.Attribute
import Kryoptic.Object.Core
import Kryoptic.Object.FillTemplate
import Kryoptic.Object.Create
import Kryoptic.Ec.Montgomery
import Kryoptic.Storage.Memory
import Kryoptic.Storage.Json
import Kryoptic.Storage.RoundTrip
import Kryoptic.Storage.JsonStorage
import Kryoptic.Mechanism
import Kryoptic.Hmac
import Kryoptic.Hmac.Fips198
import Kryoptic.Mechanism.Registry
import Kryoptic.Fips.Rsa
import Kryoptic.Operation.Lifecycle
import Kryoptic.Fips.RsaLengths
