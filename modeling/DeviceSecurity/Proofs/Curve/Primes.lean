import DeviceSecurity.Curve.Point
import DeviceSecurity.Proofs.Curve.Pratt
import Mathlib.NumberTheory.LucasLehmer

/-!
# The primes of the curves

The prime of every field and the order of every generator are prime. The field of P-521 has a
Mersenne prime; for the other numbers there is a certificate.
-/

namespace DeviceSecurity

/-- A certificate for the primes of P-256 and P-384 and for the orders of all generators. -/
def curveCertificate : List PrattEntry := [
    ⟨16879, 3, [2, 3, 29, 97]⟩,
    ⟨16979, 2, [2, 13, 653]⟩,
    ⟨17293, 7, [2, 2, 3, 11, 131]⟩,
    ⟨17449, 14, [2, 2, 2, 3, 727]⟩,
    ⟨17467, 3, [2, 3, 41, 71]⟩,
    ⟨18169, 11, [2, 2, 2, 3, 757]⟩,
    ⟨20341, 2, [2, 2, 3, 3, 5, 113]⟩,
    ⟨21407, 5, [2, 7, 11, 139]⟩,
    ⟨34429, 2, [2, 2, 3, 19, 151]⟩,
    ⟨37447, 3, [2, 3, 79, 79]⟩,
    ⟨38189, 2, [2, 2, 9547]⟩,
    ⟨38557, 2, [2, 2, 3, 3, 3, 3, 7, 17]⟩,
    ⟨64901, 2, [2, 2, 5, 5, 11, 59]⟩,
    ⟨65537, 3, [2, 2, 2, 2, 2, 2, 2, 2, 2, 2, 2, 2, 2, 2, 2, 2]⟩,
    ⟨65677, 2, [2, 2, 3, 13, 421]⟩,
    ⟨78283, 3, [2, 3, 3, 4349]⟩,
    ⟨92581, 6, [2, 2, 3, 5, 1543]⟩,
    ⟨104471, 11, [2, 5, 31, 337]⟩,
    ⟨126241, 7, [2, 2, 2, 2, 2, 3, 5, 263]⟩,
    ⟨133279, 3, [2, 3, 97, 229]⟩,
    ⟨155317, 5, [2, 2, 3, 7, 43, 43]⟩,
    ⟨161969, 3, [2, 2, 2, 2, 53, 191]⟩,
    ⟨248431, 3, [2, 3, 5, 7, 7, 13, 13]⟩,
    ⟨312289, 14, [2, 2, 2, 2, 2, 3, 3253]⟩,
    ⟨330563, 2, [2, 19, 8699]⟩,
    ⟨336757, 2, [2, 2, 3, 7, 19, 211]⟩,
    ⟨363557, 2, [2, 2, 97, 937]⟩,
    ⟨370471, 3, [2, 3, 5, 53, 233]⟩,
    ⟨455737, 11, [2, 2, 2, 3, 17, 1117]⟩,
    ⟨490463, 14, [2, 7, 53, 661]⟩,
    ⟨495527, 5, [2, 41, 6043]⟩,
    ⟨568151, 17, [2, 5, 5, 11, 1033]⟩,
    ⟨704251, 2, [2, 3, 3, 5, 5, 5, 313]⟩,
    ⟨777241, 7, [2, 2, 2, 3, 3, 5, 17, 127]⟩,
    ⟨1276987, 2, [2, 3, 29, 41, 179]⟩,
    ⟨3969899, 2, [2, 19, 104471]⟩,
    ⟨6051631, 6, [2, 3, 5, 13, 59, 263]⟩,
    ⟨6700417, 5, [2, 2, 2, 2, 2, 2, 2, 3, 17449]⟩,
    ⟨6937379, 2, [2, 7, 495527]⟩,
    ⟨8196883, 2, [2, 3, 79, 17293]⟩,
    ⟨8463023, 5, [2, 113, 37447]⟩,
    ⟨9350987, 2, [2, 17, 229, 1201]⟩,
    ⟨9863677, 5, [2, 2, 3, 3, 311, 881]⟩,
    ⟨10577321, 17, [2, 2, 2, 5, 13, 20341]⟩,
    ⟨10924559, 7, [2, 59, 92581]⟩,
    ⟨19353437, 2, [2, 2, 277, 17467]⟩,
    ⟨105957871, 3, [2, 3, 5, 19, 211, 881]⟩,
    ⟨154950581, 2, [2, 2, 5, 17, 455737]⟩,
    ⟨186406729, 7, [2, 2, 2, 3, 61, 157, 811]⟩,
    ⟨187019741, 2, [2, 2, 5, 9350987]⟩,
    ⟨191039911, 3, [2, 3, 5, 41, 155317]⟩,
    ⟨204061199, 11, [2, 11, 23, 107, 3769]⟩,
    ⟨246608641, 19, [2, 2, 2, 2, 2, 2, 2, 2, 3, 3, 5, 21407]⟩,
    ⟨272109983, 5, [2, 19, 73, 233, 421]⟩,
    ⟨290064143, 5, [2, 79, 491, 3739]⟩,
    ⟨311245691, 2, [2, 5, 7, 17, 29, 29, 311]⟩,
    ⟨513928823, 5, [2, 11, 59, 599, 661]⟩,
    ⟨532247449, 7, [2, 2, 2, 3, 61, 363557]⟩,
    ⟨622491383, 5, [2, 311245691]⟩,
    ⟨1458105463, 3, [2, 3, 3, 3, 3, 3, 11, 311, 877]⟩,
    ⟨2862218959, 3, [2, 3, 157, 1373, 2213]⟩,
    ⟨34282281433, 17, [2, 2, 2, 3, 7, 204061199]⟩,
    ⟨53448597593, 3, [2, 2, 2, 13, 513928823]⟩,
    ⟨66417393611, 6, [2, 5, 53, 173, 197, 3677]⟩,
    ⟨101785224689, 3, [2, 2, 2, 2, 7, 131, 6937379]⟩,
    ⟨228572385721, 23, [2, 2, 2, 3, 5, 7, 272109983]⟩,
    ⟨807145746439, 3, [2, 3, 47, 2862218959]⟩,
    ⟨1002328039319, 19, [2, 126241, 3969899]⟩,
    ⟨1436833069313, 3, [2, 2, 2, 2, 2, 2, 2, 2, 16979, 330563]⟩,
    ⟨11290956913871, 13, [2, 5, 17, 66417393611]⟩,
    ⟨23314383343543, 3, [2, 3, 17, 228572385721]⟩,
    ⟨37344768852931, 3, [2, 3, 5, 7, 11, 11, 149, 9863677]⟩,
    ⟨43800962361397, 6, [2, 2, 3, 41, 10861, 8196883]⟩,
    ⟨44925942675193, 5, [2, 2, 2, 3, 3517, 532247449]⟩,
    ⟨46076956964474543, 5, [2, 23, 18169, 78283, 704251]⟩,
    ⟨55942463741690639, 7, [2, 7, 107, 37344768852931]⟩,
    ⟨60018716061994831, 7, [2, 3, 5, 7, 19, 777241, 19353437]⟩,
    ⟨208150935158385979, 2, [2, 3, 11, 43, 127, 3023, 191039911]⟩,
    ⟨1357291859799823621, 2, [2, 2, 3, 5, 67, 6317, 53448597593]⟩,
    ⟨88599952463812275001, 11, [2, 2, 2, 3, 5, 5, 5, 5, 5, 19, 281, 1187, 186406729]⟩,
    ⟨426632512014427833817, 11, [2, 2, 2, 3, 13, 89, 659, 23314383343543]⟩,
    ⟨529709925838459440593, 3, [2, 2, 2, 2, 7, 181, 105957871, 246608641]⟩,
    ⟨3473195323567808068309, 2, [2, 2, 3, 3, 13, 19, 59, 9227, 65677, 10924559]⟩,
    ⟨4239602065187190872179, 2, [2, 3, 61, 193, 60018716061994831]⟩,
    ⟨35581458644053887931343, 5, [2, 17, 41, 568151, 44925942675193]⟩,
    ⟨120699720968197491947347, 3, [2, 3, 13, 34429, 154950581, 290064143]⟩,
    ⟨1647781915921980690468599, 13, [2, 17, 547, 88599952463812275001]⟩,
    ⟨1124679999981664229965379347, 2, [2, 3, 1553, 120699720968197491947347]⟩,
    ⟨1495199339761412565498084319, 6, [2, 3, 3, 3, 64901, 426632512014427833817]⟩,
    ⟨2624747550333869278416773953, 7, [2, 2, 2, 2, 2, 2, 3, 3, 1297, 16879, 208150935158385979]⟩,
    ⟨17942392077136950785977011829, 6, [2, 2, 3, 1495199339761412565498084319]⟩,
    ⟨23964610537191310276190549303, 5, [2, 336757, 35581458644053887931343]⟩,
    ⟨862725979338887169942859774909, 2, [2, 2, 3, 3, 23964610537191310276190549303]⟩,
    ⟨20705423504133292078628634597817, 5, [2, 2, 2, 3, 862725979338887169942859774909]⟩,
    ⟨144471089338257942164514676806340723, 11, [2, 3, 3, 11, 109, 14461, 133279,
      3473195323567808068309]⟩,
    ⟨7427946019382605513260578233234962521, 3, [2, 2, 2, 5, 43800962361397,
      4239602065187190872179]⟩,
    ⟨413244619895455989650825325680172591660047, 5, [2, 17, 97, 6051631,
      20705423504133292078628634597817]⟩,
    ⟨12397338596863679689524759770405177749801411, 2, [2, 3, 5,
      413244619895455989650825325680172591660047]⟩,
    ⟨774023187263532362759620327192479577272145303, 3, [2, 3, 3, 2411, 34282281433,
      11290956913871, 46076956964474543]⟩,
    ⟨835945042244614951780389953367877943453916927241, 11, [2, 2, 2, 3, 3, 3, 5,
      774023187263532362759620327192479577272145303]⟩,
    ⟨15994076126984618329123851002118749004583184815459808099, 2, [2, 10577321, 101785224689,
      7427946019382605513260578233234962521]⟩,
    ⟨1059392654943455286185473617842338478315215895509773412096307, 2, [2, 251, 248431, 8463023,
      55942463741690639, 17942392077136950785977011829]⟩,
    ⟨115792089210356248762697446949407573529996955224135760342422259061068512044369, 7, [2, 2, 2,
      2, 3, 71, 131, 373, 3407, 17449, 38189, 187019741, 622491383, 1002328039319,
      2624747550333869278416773953]⟩,
    ⟨115792089210356248762697446949407573530086143415290314195533631308867097853951, 6, [2, 3, 5,
      5, 17, 257, 641, 1531, 65537, 490463, 6700417,
      835945042244614951780389953367877943453916927241]⟩,
    ⟨3055465788140352002733946906144561090641249606160407884365391979704929268480326390471, 12,
      [2, 3, 5, 151, 347, 1276987, 1436833069313,
      1059392654943455286185473617842338478315215895509773412096307]⟩,
    ⟨19173790298027098165721053155794528970226934547887232785722672956982046098136719667167519737147526097,
      3, [2, 2, 2, 2, 11, 11, 11, 8389, 38557, 312289, 1357291859799823621, 529709925838459440593,
      12397338596863679689524759770405177749801411]⟩,
    ⟨3636410625392624440351547907325502812950802686368714273274221490761556277859337865760708490235892541081304511,
      19, [2, 5, 19, 263, 5449, 15601, 370471, 144471089338257942164514676806340723,
      15994076126984618329123851002118749004583184815459808099]⟩,
    ⟨39402006196394479212279040100143613805079739270465446667946905279627659399113263569398956308152294913554433653942643,
      2, [2, 3, 3, 7, 7, 13, 1124679999981664229965379347,
      3055465788140352002733946906144561090641249606160407884365391979704929268480326390471]⟩,
    ⟨39402006196394479212279040100143613805079739270465446667948293404245721771496870329047266088258938001861606973112319,
      19, [2, 19, 67, 807145746439,
      19173790298027098165721053155794528970226934547887232785722672956982046098136719667167519737147526097]⟩,
    ⟨3615194794881930010216942559103847593050265703173292383701371712350878926821661243755933835426896058418509759880171943,
      3, [2, 3, 3, 11, 31, 161969,
      3636410625392624440351547907325502812950802686368714273274221490761556277859337865760708490235892541081304511]⟩,
    ⟨6864797660130609714981900799081393217269435300143305409394463459185543183397655394245057746333217197532963996371363321113864768612440380340372808892707005449,
      3, [2, 2, 2, 7, 11, 1283, 1458105463, 1647781915921980690468599,
      3615194794881930010216942559103847593050265703173292383701371712350878926821661243755933835426896058418509759880171943]⟩]

theorem prime_of_mem_curveCertificate : ∀ e ∈ curveCertificate, e.number.Prime :=
  PrattEntry.prime_of_allValid (nofun : ∀ q ∈ ([] : List ℕ), q.Prime) (by decide +kernel)

namespace Curve

theorem prime_mersenne : (mersenne 521).Prime := lucas_lehmer_sufficiency _ (by simp) (by norm_num)

theorem prime_prime (c : Curve) : c.prime.Prime := by
  have hlisted : c.prime = mersenne 521 ∨ ∃ e ∈ curveCertificate, e.number = c.prime := by
    cases c <;> decide +kernel
  rcases hlisted with heq | ⟨e, hmem, heq⟩
  · exact heq ▸ prime_mersenne
  · exact heq ▸ prime_of_mem_curveCertificate e hmem

theorem prime_order (c : Curve) : c.order.Prime := by
  have hlisted : ∃ e ∈ curveCertificate, e.number = c.order := by
    cases c <;> decide +kernel
  obtain ⟨e, hmem, heq⟩ := hlisted
  exact heq ▸ prime_of_mem_curveCertificate e hmem

instance (c : Curve) : Fact c.prime.Prime := ⟨c.prime_prime⟩

end Curve

end DeviceSecurity
