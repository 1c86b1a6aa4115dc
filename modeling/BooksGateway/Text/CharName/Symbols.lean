/-!
# Names of symbols

The names of the notations of music, mathematics, dance and writing by hand. Each row has the first
character and the names from it on, as `BooksGateway.Text.CharName` reads them.
-/

namespace BooksGateway.Text.CharName

/-- The names from U+1D000 to U+1EFFF, in rows. -/
def symbols : List (Nat × String) := [
  (0x1D000, "aBYZANTINE MUSICAL SYMBOL PSILIdDASEIAdPERISPOMENIdOXEIA EKFONITIKONeDIPLI"),
  (0x1D005, "dVAREIA EKFONITIKONeDIPLIdKATHISTIdSYRMATIKIdPARAKLITIKIdYPOKRISISeDIPLIdKREMASTI"),
  (0x1D00D, "dAPESO EKFONITIKONdEXOndTELEIAdKENTIMATAdAPOSTROFOSeDIPLIdSYNEVMAdTHITA"),
  (0x1D015, "dOLIGON ARCHAIONdGORGONndPSILONdCHAMILONdVATHYdISON ARCHAIONdKENTIMAndKENTIMATAn"),
  (0x1D01D, "dSAXIMATAdPARICHONdSTAVROS APODEXIAdOXEIAI ARCHAIONdVAREIAIndAPODERMAndAPOTHEMA"),
  (0x1D024, "dKLASMAdREVMAdPIASMA ARCHAIONdTINAGMAdANATRICHISMAdSEISMAdSYNAGMA ARCHAION"),
  (0x1D02B, "eMETA STAVROUdOYRANISMA ARCHAIONdTHEMAdLEMOIdDYOdTRIAdTESSERAdKRATIMATA"),
  (0x1D033, "dAPESO EXO NEOdFTHORA ARCHAIONdIMIFTHORAdTROMIKON ARCHAIONdKATAVA TROMIKONdPELASTON"),
  (0x1D039, "dPSIFISTONdKONTEVMAdCHOREVMA ARCHAIONdRAPISMAdPARAKALESMA ARCHAIONdPARAKLITIKIn"),
  (0x1D03F, "dICHADINdNANAdPETASMAdKONTEVMA ALLOdTROMIKONndSTRAGGISMATAdGRONTHISMATAdISON NEO"),
  (0x1D047, "dOLIGONndOXEIAndPETASTIdKOUFISMAdPETASTOKOUFISMAdKRATIMOKOUFISMAdPELASTON NEO"),
  (0x1D04E, "dKENTIMATA NEO ANOdKENTIMAodYPSILIdAPOSTROFOS NEOdAPOSTROFOI SYNDESMOSndYPORROI"),
  (0x1D054, "dKRATIMOYPORROONdELAFRONdCHAMILIdMIKRON ISONdVAREIA NEOdPIASMAndPSIFISTONndOMALON"),
  (0x1D05C, "dANTIKENOMAdLYGISMAdPARAKLITIKI NEOdPARAKALESMAndETERON PARAKALESMAdKYLISMA"),
  (0x1D062, "dANTIKENOKYLISMAdTROMIKON NEOdEKSTREPTONdSYNAGMA NEOdSYRMAdCHOREVMA NEOdEPEGERMA"),
  (0x1D069, "dSEISMA NEOdXIRON KLASMAdTROMIKOPSIFISTONdPSIFISTOLYGISMAdTROMIKOLYGISMA"),
  (0x1D06E, "dTROMIKOPARAKALESMAdPSIFISTOPARAKALESMAdTROMIKOSYNAGMAdPSIFISTOSYNAGMA"),
  (0x1D072, "dGORGOSYNTHETONdARGOSYNTHETONdETERONndOYRANISMA NEOdTHEMATISMOS ESOeEXOdTHEMA APLOUN"),
  (0x1D079, "dTHES KAI APOTHESdKATAVASMAdENDOFONONdYFEN KATOeANOdSTAVROSdKLASMA ANO"),
  (0x1D080, "dDIPLI ARCHAIONdKRATIMAneALLOeNEOdAPODERMAndAPLIdDIPLIdTRIPLIdTETRAPLIdKORONIS"),
  (0x1D08A, "dLEIMMA ENOS CHRONOUeDYO CHRONONeTRIONneTESSARONneIMISEOS CHRONOUdGORGON NEO ANO"),
  (0x1D090, "ePARESTIGMENON ARISTERAfDEXIAdDIGORGONePARESTIGMENON ARISTERA KATOgANOfDEXIA"),
  (0x1D096, "dTRIGORGONdARGONdIMIDIARGONdDIARGONdAGOGI POLI ARGIeARGOTERIeARGIeMETRIAeMESIeGORGI"),
  (0x1D0A0, "eGORGOTERIePOLI GORGIdMARTYRIA PROTOS ICHOSeALLIoeDEYTEROSneALLIoeTRITOSneTRIFONIAS"),
  (0x1D0A8, "eTETARTOS ICHOSfLEGETOSneoePLAGIOSndISAKIA TELOUS ICHIMATOSdAPOSTROFOIo"),
  (0x1D0AE, "dFANEROSIS TETRAFONIASeMONOFONIASeDIFONIASdMARTYRIA VARYS ICHOSePROTOVARYSn"),
  (0x1D0B3, "ePLAGIOS TETARTOSndGORTHMIKON N APLOUNfDIPLOUNdENARXIS KAI FTHORA VOUdIMIFONON"),
  (0x1D0B8, "dIMIFTHORONdFTHORA ARCHAION DEYTEROU ICHOUeDIATONIKI PAfNANAeNAOS ICHOSeDIATONIKI DI"),
  (0x1D0BE, "eSKLIRON DIATONONneDIATONIKI KEfZOfNI KATOgANOeMALAKON CHROMA DIFONIASgMONOFONIAS"),
  (0x1D0C5, "dFHTORA SKLIRON CHROMA VASISdFTHORA SKLIRON CHROMA SYNAFIeNENANOdCHROA ZYGOSeKLITON"),
  (0x1D0CA, "eSPATHIdFTHORA I YFESIS TETARTIMORIONeENARMONIOS ANTIFONIAdYFESIS TRITIMORION"),
  (0x1D0CE, "dDIESISneTETARTIMORIONeAPLI DYO DODEKATAeMONOGRAMMOS TESSERAneDIGRAMMOS EXn"),
  (0x1D0D3, "eTRIGRAMMOS OKTOndYFESIS APLI DYOneMONOGRAMMOS TESSERAneDIGRAMMOS EXn"),
  (0x1D0D7, "eTRIGRAMMOS OKTOndGENIKI DIESISeYFESISdDIASTOLI APLI MIKRIfMEGALIeDIPLIeTHESEOS"),
  (0x1D0DE, "dSIMANSISnfDISIMOUfTRISIMOUfTETRASIMOUeARSEOSfDISIMOUfTRISIMOUfTETRASIMOU"),
  (0x1D0E6, "dDIGRAMMA GGdDIFTOGGOS OUdSTIGMAdARKTIKO PAeVOUeGAeDIeKEeZOeNIdKENTIMATA NEO MESO"),
  (0x1D0F1, "dKENTIMAodKENTIMATA NEO KATOdKENTIMAodKLASMAndGORGON NEOn"),
  (0x1D100, "aMUSICAL SYMBOL SINGLE BARLINEcDOUBLEncFINALncREVERSEocDASHEDncSHORTn"),
  (0x1D106, "cLEFT REPEAT SIGNcRIGHTocREPEAT DOTScDAL SEGNOcDA CAPOcSEGNOcCODAcREPEATED FIGURE-1"),
  (0x1D10E, "dFIGURE-2dFIGURE-3cFERMATAdBELOWcBREATH MARKcCAESURAcBRACEcBRACKETcONE-LINE STAFF"),
  (0x1D117, "cTWO-LINEncTHREE-LINEncFOUR-LINEncFIVE-LINEncSIX-LINEncSIX-STRING FRETBOARD"),
  (0x1D11D, "cFOUR-STRINGncG CLEFeOTTAVA ALTAfBASSAcC CLEFcFneOTTAVA ALTAfBASSAcDRUM CLEF-1"),
  (0x1D126, "dCLEF-2"),
  (0x1D129, "cMULTIPLE MEASURE RESTcDOUBLE SHARPdFLATcFLAT UPdDOWNcNATURAL UPdDOWNcSHARP UPdDOWN"),
  (0x1D132, "cQUARTER TONE SHARPeFLATcCOMMON TIMEcCUTncOTTAVA ALTAdBASSAcQUINDICESIMA ALTAdBASSA"),
  (0x1D13A, "cMULTI RESTcWHOLEncHALFncQUARTERncEIGHTHncSIXTEENTHncTHIRTY-SECONDncSIXTY-FOURTHn"),
  (0x1D142, "cONE HUNDRED TWENTY-EIGHTHncX NOTEHEADcPLUSncCIRCLE XncSQUARE NOTEHEAD WHITEeBLACK"),
  (0x1D148, "cTRIANGLE NOTEHEAD UP WHITEfBLACKeLEFT WHITEfBLACKeRIGHT WHITEfBLACKeDOWN WHITE"),
  (0x1D14F, "fBLACKeUP RIGHT WHITEgBLACKcMOON NOTEHEAD WHITEeBLACK"),
  (0x1D154, "cTRIANGLE-ROUND NOTEHEAD DOWN WHITEfBLACKcPARENTHESIS NOTEHEADcVOIDncNOTEHEAD BLACK"),
  (0x1D159, "cNULL NOTEHEADcCLUSTER NOTEHEAD WHITEeBLACKcBREVEcWHOLE NOTEcHALFncQUARTERncEIGHTHn"),
  (0x1D161, "cSIXTEENTHncTHIRTY-SECONDncSIXTY-FOURTHncONE HUNDRED TWENTY-EIGHTHncCOMBINING STEM"),
  (0x1D166, "dSPRECHGESANGndTREMOLO-1dTREMOLO-2dTREMOLO-3cFINGERED TREMOLO-1dTREMOLO-2dTREMOLO-3"),
  (0x1D16D, "cCOMBINING AUGMENTATION DOTdFLAG-1dFLAG-2dFLAG-3dFLAG-4dFLAG-5cBEGIN BEAMcENDn"),
  (0x1D175, "cBEGIN TIEcENDncBEGIN SLURcENDncBEGIN PHRASEcENDncCOMBINING ACCENTdSTACCATOdTENUTO"),
  (0x1D17E, "dSTACCATISSIMOdMARCATOdMARCATO-STACCATOdACCENT-STACCATOdLOUREcARPEGGIATO UPdDOWN"),
  (0x1D185, "cCOMBINING DOITdRIPdFLIPdSMEARdBENDdDOUBLE TONGUEdTRIPLEncRINFORZANDOcSUBITOcZcPIANO"),
  (0x1D190, "cMEZZOcFORTEcCRESCENDOcDECRESCENDOcGRACE NOTE SLASHeNOncTRcTURNcINVERTEDncTURN SLASH"),
  (0x1D19A, "dUPcORNAMENT STROKE-1dSTROKE-2dSTROKE-3dSTROKE-4dSTROKE-5dSTROKE-6dSTROKE-7dSTROKE-8"),
  (0x1D1A3, "dSTROKE-9dSTROKE-10dSTROKE-11cHAUPTSTIMMEcNEBENSTIMMEcEND OF STIMMEcDEGREE SLASH"),
  (0x1D1AA, "cCOMBINING DOWN BOWdUPndHARMONICdSNAP PIZZICATOcPEDAL MARKdUPncHALF PEDALn"),
  (0x1D1B1, "cGLISSANDO UPdDOWNcWITH FINGERNAILScDAMPdALLcMAXIMAcLONGAcBREVIScSEMIBREVIS WHITE"),
  (0x1D1BA, "dBLACKcMINIMAdBLACKcSEMIMINIMA WHITEdBLACKcFUSA WHITEdBLACKcLONGA PERFECTA REST"),
  (0x1D1C2, "dIMPERFECTAncBREVISncSEMIBREVISncMINIMAncSEMIMINIMAn"),
  (0x1D1C7, "cTEMPUS PERFECTUM CUM PROLATIONE PERFECTAgIMPERFECTAgPERFECTA DIMINUTION-1"),
  (0x1D1CA, "dIMPERFECTUM CUM PROLATIONE PERFECTAgIMPERFECTAhDIMINUTION-1hDIMINUTION-2"),
  (0x1D1CE, "hDIMINUTION-3cCROIXcGREGORIAN C CLEFdFncSQUARE BcVIRGAcPODATUScCLIVIScSCANDICUS"),
  (0x1D1D7, "cCLIMACUScTORCULUScPORRECTUSdFLEXUScSCANDICUSncTORCULUS RESUPINUScPES SUBPUNCTIS"),
  (0x1D1DE, "cKIEVAN C CLEFdEND OF PIECEdFINAL NOTEdRECITATIVE MARKdWHOLE NOTEdHALFn"),
  (0x1D1E4, "dQUARTER NOTE STEM DOWNgUPdEIGHTH NOTE STEM DOWNgUPdFLAT SIGNcSORIcKORON"),
  (0x1D200, "aGREEK VOCAL NOTATION SYMBOL-1dSYMBOL-2dSYMBOL-3dSYMBOL-4dSYMBOL-5dSYMBOL-6dSYMBOL-7"),
  (0x1D207, "dSYMBOL-8dSYMBOL-9dSYMBOL-10dSYMBOL-11dSYMBOL-12dSYMBOL-13dSYMBOL-14dSYMBOL-15"),
  (0x1D20F, "dSYMBOL-16dSYMBOL-17dSYMBOL-18dSYMBOL-19dSYMBOL-20dSYMBOL-21dSYMBOL-22dSYMBOL-23"),
  (0x1D217, "dSYMBOL-24dSYMBOL-50dSYMBOL-51dSYMBOL-52dSYMBOL-53dSYMBOL-54"),
  (0x1D21D, "bINSTRUMENTAL NOTATION SYMBOL-1dSYMBOL-2dSYMBOL-4dSYMBOL-5dSYMBOL-7dSYMBOL-8"),
  (0x1D223, "dSYMBOL-11dSYMBOL-12dSYMBOL-13dSYMBOL-14dSYMBOL-17dSYMBOL-18dSYMBOL-19dSYMBOL-23"),
  (0x1D22B, "dSYMBOL-24dSYMBOL-25dSYMBOL-26dSYMBOL-27dSYMBOL-29dSYMBOL-30dSYMBOL-32dSYMBOL-36"),
  (0x1D233, "dSYMBOL-37dSYMBOL-38dSYMBOL-39dSYMBOL-40dSYMBOL-42dSYMBOL-43dSYMBOL-45dSYMBOL-47"),
  (0x1D23B, "dSYMBOL-48dSYMBOL-49dSYMBOL-50dSYMBOL-51dSYMBOL-52dSYMBOL-53dSYMBOL-54"),
  (0x1D242, "aCOMBINING GREEK MUSICAL TRISEMEdTETRASEMEdPENTASEMEaGREEK MUSICAL LEIMMA"),
  (0x1D2E0, "aMAYAN NUMERAL ZEROcONEcTWOcTHREEcFOURcFIVEcSIXcSEVENcEIGHTcNINEcTENcELEVENcTWELVE"),
  (0x1D2ED, "cTHIRTEENcFOURTEENcFIFTEENcSIXTEENcSEVENTEENcEIGHTEENcNINETEEN"),
  (0x1D300, "aMONOGRAM FOR EARTHaDIGRAM FOR HEAVENLYncHUMANncEARTHLY HEAVENdHUMANcEARTH"),
  (0x1D306, "aTETRAGRAM FOR CENTREcFULL CIRCLEcMIREDcBARRIERcKEEPING SMALLcCONTRARIETYcASCENT"),
  (0x1D30D, "cOPPOSITIONcBRANCHING OUTcDEFECTIVENESS OR DISTORTIONcDIVERGENCEcYOUTHFULNESS"),
  (0x1D312, "cINCREASEcPENETRATIONcREACHcCONTACTcHOLDING BACKcWAITINGcFOLLOWINGcADVANCEcRELEASE"),
  (0x1D31B, "cRESISTANCEcEASEcJOYcCONTENTIONcENDEAVOURcDUTIEScCHANGEcDECISIVENESScBOLD RESOLUTION"),
  (0x1D324, "cPACKINGcLEGIONcCLOSENESScKINSHIPcGATHERINGcSTRENGTHcPURITYcFULLNESScRESIDENCE"),
  (0x1D32D, "cLAW OR MODELcRESPONSEcGOING TO MEETcENCOUNTERScSTOVEcGREATNESScENLARGEMENTcPATTERN"),
  (0x1D335, "cRITUALcFLIGHTcVASTNESS OR WASTINGcCONSTANCYcMEASUREcETERNITYcUNITYcDIMINISHMENT"),
  (0x1D33D, "cCLOSED MOUTHcGUARDEDNESScGATHERING INcMASSINGcACCUMULATIONcEMBELLISHMENTcDOUBT"),
  (0x1D344, "cWATCHcSINKINGcINNERcDEPARTUREcDARKENINGcDIMMINGcEXHAUSTIONcSEVERANCEcSTOPPAGE"),
  (0x1D34D, "cHARDNESScCOMPLETIONcCLOSUREcFAILUREcAGGRAVATIONcCOMPLIANCEcON THE VERGE"),
  (0x1D354, "cDIFFICULTIEScLABOURINGcFOSTERING"),
  (0x1D360, "aCOUNTING ROD UNIT DIGIT ONEeTWOeTHREEeFOUReFIVEeSIXeSEVENeEIGHTeNINEcTENS DIGIT ONE"),
  (0x1D36A, "eTWOeTHREEeFOUReFIVEeSIXeSEVENeEIGHTeNINEaIDEOGRAPHIC TALLY MARK ONEdTWOdTHREEdFOUR"),
  (0x1D376, "dFIVEaTALLY MARK ONEcFIVE"),
  (0x1D400, "aMATHEMATICAL BOLD CAPITAL AdBdCdDdEdFdGdHdIdJdKdLdMdNdOdPdQdRdSdTdUdVdWdXdYdZ"),
  (0x1D41A, "cSMALL AdBdCdDdEdFdGdHdIdJdKdLdMdNdOdPdQdRdSdTdUdVdWdXdYdZbITALIC CAPITAL AdBdCdDdE"),
  (0x1D439, "dFdGdHdIdJdKdLdMdNdOdPdQdRdSdTdUdVdWdXdYdZcSMALL AdBdCdDdEdFdG"),
  (0x1D456, "dIdJdKdLdMdNdOdPdQdRdSdTdUdVdWdXdYdZbBOLD ITALIC CAPITAL AeBeCeDeEeFeGeHeIeJeKeLeMeN"),
  (0x1D476, "eOePeQeReSeTeUeVeWeXeYeZdSMALL AeBeCeDeEeFeGeHeIeJeKeLeMeNeOePeQeReSeTeUeVeWeXeYeZ"),
  (0x1D49C, "bSCRIPT CAPITAL A"),
  (0x1D49E, "dCdD"),
  (0x1D4A2, "dG"),
  (0x1D4A5, "dJdK"),
  (0x1D4A9, "dNdOdPdQ"),
  (0x1D4AE, "dSdTdUdVdWdXdYdZcSMALL AdBdCdD"),
  (0x1D4BB, "dF"),
  (0x1D4BD, "dHdIdJdKdLdMdN"),
  (0x1D4C5, "dPdQdRdSdTdUdVdWdXdYdZbBOLD SCRIPT CAPITAL AeBeCeDeEeFeGeHeIeJeKeLeMeNeOePeQeReSeTeU"),
  (0x1D4E5, "eVeWeXeYeZdSMALL AeBeCeDeEeFeGeHeIeJeKeLeMeNeOePeQeReSeTeUeVeWeXeYeZ"),
  (0x1D504, "bFRAKTUR CAPITAL AdB"),
  (0x1D507, "dDdEdFdG"),
  (0x1D50D, "dJdKdLdMdNdOdPdQ"),
  (0x1D516, "dSdTdUdVdWdXdY"),
  (0x1D51E, "cSMALL AdBdCdDdEdFdGdHdIdJdKdLdMdNdOdPdQdRdSdTdUdVdWdXdYdZbDOUBLE-STRUCK CAPITAL AdB"),
  (0x1D53B, "dDdEdFdG"),
  (0x1D540, "dIdJdKdLdM"),
  (0x1D546, "dO"),
  (0x1D54A, "dSdTdUdVdWdXdY"),
  (0x1D552, "cSMALL AdBdCdDdEdFdGdHdIdJdKdLdMdNdOdPdQdRdSdTdUdVdWdXdYdZbBOLD FRAKTUR CAPITAL AeB"),
  (0x1D56E, "eCeDeEeFeGeHeIeJeKeLeMeNeOePeQeReSeTeUeVeWeXeYeZdSMALL AeBeCeDeEeFeGeHeIeJeKeLeMeNeO"),
  (0x1D595, "ePeQeReSeTeUeVeWeXeYeZbSANS-SERIF CAPITAL AdBdCdDdEdFdGdHdIdJdKdLdMdNdOdPdQdRdSdTdU"),
  (0x1D5B5, "dVdWdXdYdZcSMALL AdBdCdDdEdFdGdHdIdJdKdLdMdNdOdPdQdRdSdTdUdVdWdXdYdZcBOLD CAPITAL A"),
  (0x1D5D5, "eBeCeDeEeFeGeHeIeJeKeLeMeNeOePeQeReSeTeUeVeWeXeYeZdSMALL AeBeCeDeEeFeGeHeIeJeKeLeMeN"),
  (0x1D5FC, "eOePeQeReSeTeUeVeWeXeYeZcITALIC CAPITAL AeBeCeDeEeFeGeHeIeJeKeLeMeNeOePeQeReSeTeUeV"),
  (0x1D61E, "eWeXeYeZdSMALL AeBeCeDeEeFeGeHeIeJeKeLeMeNeOePeQeReSeTeUeVeWeXeYeZ"),
  (0x1D63C, "cBOLD ITALIC CAPITAL AfBfCfDfEfFfGfHfIfJfKfLfMfNfOfPfQfRfSfTfUfVfWfXfYfZeSMALL AfBfC"),
  (0x1D659, "fDfEfFfGfHfIfJfKfLfMfNfOfPfQfRfSfTfUfVfWfXfYfZbMONOSPACE CAPITAL AdBdCdDdEdFdGdHdIdJ"),
  (0x1D67A, "dKdLdMdNdOdPdQdRdSdTdUdVdWdXdYdZcSMALL AdBdCdDdEdFdGdHdIdJdKdLdMdNdOdPdQdRdSdTdUdVdW"),
  (0x1D6A1, "dXdYdZbITALIC SMALL DOTLESS IeJ"),
  (0x1D6A8, "bBOLD CAPITAL ALPHAdBETAdGAMMAdDELTAdEPSILONdZETAdETAdTHETAdIOTAdKAPPAdLAMDAdMUdNU"),
  (0x1D6B5, "dXIdOMICRONdPIdRHOdTHETA SYMBOLdSIGMAdTAUdUPSILONdPHIdCHIdPSIdOMEGAcNABLA"),
  (0x1D6C2, "cSMALL ALPHAdBETAdGAMMAdDELTAdEPSILONdZETAdETAdTHETAdIOTAdKAPPAdLAMDAdMUdNUdXI"),
  (0x1D6D0, "dOMICRONdPIdRHOdFINAL SIGMAdndTAUdUPSILONdPHIdCHIdPSIdOMEGAcPARTIAL DIFFERENTIAL"),
  (0x1D6DC, "cEPSILON SYMBOLcTHETAncKAPPAncPHIncRHOncPInbITALIC CAPITAL ALPHAdBETAdGAMMAdDELTA"),
  (0x1D6E6, "dEPSILONdZETAdETAdTHETAdIOTAdKAPPAdLAMDAdMUdNUdXIdOMICRONdPIdRHOdTHETA SYMBOLdSIGMA"),
  (0x1D6F5, "dTAUdUPSILONdPHIdCHIdPSIdOMEGAcNABLAcSMALL ALPHAdBETAdGAMMAdDELTAdEPSILONdZETAdETA"),
  (0x1D703, "dTHETAdIOTAdKAPPAdLAMDAdMUdNUdXIdOMICRONdPIdRHOdFINAL SIGMAdndTAUdUPSILONdPHIdCHI"),
  (0x1D713, "dPSIdOMEGAcPARTIAL DIFFERENTIALcEPSILON SYMBOLcTHETAncKAPPAncPHIncRHOncPIn"),
  (0x1D71C, "bBOLD ITALIC CAPITAL ALPHAeBETAeGAMMAeDELTAeEPSILONeZETAeETAeTHETAeIOTAeKAPPAeLAMDA"),
  (0x1D727, "eMUeNUeXIeOMICRONePIeRHOeTHETA SYMBOLeSIGMAeTAUeUPSILONePHIeCHIePSIeOMEGAdNABLA"),
  (0x1D736, "dSMALL ALPHAeBETAeGAMMAeDELTAeEPSILONeZETAeETAeTHETAeIOTAeKAPPAeLAMDAeMUeNUeXI"),
  (0x1D744, "eOMICRONePIeRHOeFINAL SIGMAeneTAUeUPSILONePHIeCHIePSIeOMEGAdPARTIAL DIFFERENTIAL"),
  (0x1D750, "dEPSILON SYMBOLdTHETAndKAPPAndPHIndRHOndPInbSANS-SERIF BOLD CAPITAL ALPHAeBETAeGAMMA"),
  (0x1D759, "eDELTAeEPSILONeZETAeETAeTHETAeIOTAeKAPPAeLAMDAeMUeNUeXIeOMICRONePIeRHOeTHETA SYMBOL"),
  (0x1D768, "eSIGMAeTAUeUPSILONePHIeCHIePSIeOMEGAdNABLAdSMALL ALPHAeBETAeGAMMAeDELTAeEPSILONeZETA"),
  (0x1D776, "eETAeTHETAeIOTAeKAPPAeLAMDAeMUeNUeXIeOMICRONePIeRHOeFINAL SIGMAeneTAUeUPSILONePHI"),
  (0x1D786, "eCHIePSIeOMEGAdPARTIAL DIFFERENTIALdEPSILON SYMBOLdTHETAndKAPPAndPHIndRHOndPIn"),
  (0x1D790, "dITALIC CAPITAL ALPHAfBETAfGAMMAfDELTAfEPSILONfZETAfETAfTHETAfIOTAfKAPPAfLAMDAfMUfNU"),
  (0x1D79D, "fXIfOMICRONfPIfRHOfTHETA SYMBOLfSIGMAfTAUfUPSILONfPHIfCHIfPSIfOMEGAeNABLA"),
  (0x1D7AA, "eSMALL ALPHAfBETAfGAMMAfDELTAfEPSILONfZETAfETAfTHETAfIOTAfKAPPAfLAMDAfMUfNUfXI"),
  (0x1D7B8, "fOMICRONfPIfRHOfFINAL SIGMAfnfTAUfUPSILONfPHIfCHIfPSIfOMEGAePARTIAL DIFFERENTIAL"),
  (0x1D7C4, "eEPSILON SYMBOLeTHETAneKAPPAnePHIneRHOnePInbBOLD CAPITAL DIGAMMAcSMALLn"),
  (0x1D7CE, "cDIGIT ZEROdONEdTWOdTHREEdFOURdFIVEdSIXdSEVENdEIGHTdNINEbDOUBLE-STRUCK DIGIT ZERO"),
  (0x1D7D9, "dONEdTWOdTHREEdFOURdFIVEdSIXdSEVENdEIGHTdNINEbSANS-SERIF DIGIT ZEROdONEdTWOdTHREE"),
  (0x1D7E6, "dFOURdFIVEdSIXdSEVENdEIGHTdNINEcBOLD DIGIT ZEROeONEeTWOeTHREEeFOUReFIVEeSIXeSEVEN"),
  (0x1D7F4, "eEIGHTeNINEbMONOSPACE DIGIT ZEROdONEdTWOdTHREEdFOURdFIVEdSIXdSEVENdEIGHTdNINE"),
  (0x1D800, "aSIGNWRITING HAND-FIST INDEXbHAND-CIRCLEnbHAND-CUPnbHAND-OVALnbHAND-HINGEn"),
  (0x1D805, "bHAND-ANGLEnbHAND-FIST INDEX BENTbHAND-CIRCLEobHAND-FIST THUMB UNDERo"),
  (0x1D809, "cINDEX RAISED KNUCKLEdCUPPEDdHINGEDeLOWbHAND-CIRCLE INDEX HINGE"),
  (0x1D80E, "bHAND-FIST INDEX MIDDLEbHAND-CIRCLEobHAND-FIST INDEX MIDDLE BENTeRAISED KNUCKLES"),
  (0x1D812, "eHINGEDdUPodHINGED MIDDLE UPdMIDDLE CONJOINEDfINDEX BENTfMIDDLEnfCUPPEDfHINGED"),
  (0x1D81A, "eCROSSEDbHAND-CIRCLEpbHAND-FIST MIDDLE BENT OVER INDEXcINDEX BENT OVER MIDDLE"),
  (0x1D81E, "dMIDDLE THUMBbHAND-CIRCLEpbHAND-FIST INDEX MIDDLE STRAIGHT THUMB BENT"),
  (0x1D821, "eBENT THUMB STRAIGHTeTHUMB BENTeHINGED SPREAD THUMB SIDEdUP MIDDLE HINGEDohCONJOINED"),
  (0x1D826, "dHINGED MIDDLE UP THUMB SIDEdMIDDLE UP SPREAD THUMB FORWARDeTHUMB CUPPEDfCIRCLED"),
  (0x1D82A, "fHOOKEDfHINGEDcTHUMB BETWEEN INDEX MIDDLE STRAIGHTcINDEX MIDDLE CONJOINED THUMB SIDE"),
  (0x1D82E, "hCONJOINEDhBENTcMIDDLE THUMB HOOKED INDEX UPcINDEX THUMB HOOKED MIDDLEn"),
  (0x1D832, "dMIDDLE CONJOINED HINGED THUMB SIDEeCROSSEDoeCONJOINED THUMB FORWARDfCUPPEDo"),
  (0x1D836, "cMIDDLE THUMB CUPPED INDEX UPcINDEX THUMB CUPPED MIDDLEncMIDDLE THUMB CIRCLED INDEXn"),
  (0x1D839, "gHINGEDcINDEX THUMB ANGLED OUT MIDDLE UPfINoeCIRCLEDodMIDDLE THUMB CONJOINED HINGED"),
  (0x1D83E, "fANGLED OUTgcMIDDLE THUMB ANGLED OUT INDEX UPhCROSSEDfINDEX UP"),
  (0x1D843, "cINDEX THUMB HOOKED MIDDLE HINGEDbHAND-FLAT FOUR FINGERSeBENTeHINGEDeCONJOINEDfSPLIT"),
  (0x1D849, "bHAND-CLAW FOUR FINGERS CONJOINEDbHAND-FIST FOUR FINGERS CONJOINED BENT"),
  (0x1D84B, "bHAND-HINGE FOUR FINGERS CONJOINEDbHAND-FLAT FIVE FINGERS SPREADcHEELp"),
  (0x1D84E, "cFIVE FINGERS SPREAD FOUR BENTcHEELrcFIVE FINGERS SPREADncHEELq"),
  (0x1D852, "cFIVE FINGERS SPREAD THUMB FORWARDbHAND-CUP FIVE FINGERS SPREADfOPENbHAND-HINGEq"),
  (0x1D856, "bHAND-OVAL FIVE FINGERS SPREADbHAND-FLAT FIVE FINGERS SPREAD HINGEDgTHUMB SIDE"),
  (0x1D859, "gNO THUMBccBETWEEN PALM FACINGScHEELcTHUMB SIDEcHEELocTHUMB BENTdFORWARD"),
  (0x1D861, "cSPLIT INDEX THUMB SIDEdCENTREeTHUMB SIDEgBENTdLITTLEbHAND-CLAWcTHUMB SIDEcNO THUMB"),
  (0x1D869, "cTHUMB FORWARDbHAND-HOOK CURLICUEcbHAND-CUP OPENccOPEN THUMB SIDEcocOPEN NO THUMBco"),
  (0x1D872, "cOPEN THUMB FORWARDcobHAND-CURLICUE OPENcbHAND-CIRCLEbHAND-OVALcTHUMB SIDEcNO THUMB"),
  (0x1D87A, "cTHUMB FORWARDbHAND-HINGE OPENdTHUMB FORWARDccSMALLcOPEN THUMB SIDEcocOPEN NO THUMB"),
  (0x1D882, "cocTHUMB SIDE TOUCHING INDEXdBETWEEN MIDDLE RINGbHAND-ANGLE"),
  (0x1D886, "bHAND-FIST INDEX MIDDLE RINGbHAND-CIRCLEpbHAND-HINGEpbHAND-ANGLEpbHAND-HINGE LITTLE"),
  (0x1D88B, "bHAND-FIST INDEX MIDDLE RING BENTfCONJOINEDbHAND-HINGEqbHAND-FIST LITTLE DOWN"),
  (0x1D88F, "eRIPPLE STRAIGHTfCURVEDeOTHERS CIRCLEDdUPcTHUMB UNDERobHAND-CIRCLEobHAND-OVALo"),
  (0x1D896, "bHAND-ANGLEobHAND-FIST LITTLE RAISED KNUCKLEdBENTdTOUCHES THUMBdnbHAND-HINGEo"),
  (0x1D89C, "bHAND-FIST LITTLE INDEXnbHAND-HINGEpbHAND-ANGLE LITTLE INDEX THUMB INDEX THUMB OUTh"),
  (0x1D8A0, "bHAND-FIST LITTLE INDEXbHAND-CIRCLEobHAND-HINGEobHAND-ANGLEo"),
  (0x1D8A4, "bHAND-FIST INDEX MIDDLE LITTLEbHAND-CIRCLEpbHAND-HINGEpcRING"),
  (0x1D8A8, "bHAND-ANGLE INDEX MIDDLE LITTLEbHAND-FIST INDEX MIDDLE CROSSnbHAND-CIRCLEq"),
  (0x1D8AB, "bHAND-FIST RING DOWNbHAND-HINGE RING DOWN INDEX THUMB HOOK MIDDLE"),
  (0x1D8AD, "bHAND-ANGLE RING DOWN MIDDLE THUMB INDEX CROSSbHAND-FIST RING UPdRAISED KNUCKLE"),
  (0x1D8B0, "dLITTLEbHAND-CIRCLEobHAND-OVALobHAND-ANGLEobHAND-FIST RING MIDDLEeCONJOINED"),
  (0x1D8B6, "eRAISED KNUCKLESdINDEXdTHUMBbHAND-HOOKobHAND-FIST INDEX RING LITTLEbHAND-CIRCLEp"),
  (0x1D8BC, "bHAND-CURLICUE INDEX RING LITTLE ONbHAND-HOOK INDEX RING LITTLE OUTfINfUNDER"),
  (0x1D8C0, "bHAND-CUP INDEX RING LITTLEbHAND-HINGEpbHAND-ANGLE INDEX RING LITTLE OUTf"),
  (0x1D8C4, "bHAND-FIST MIDDLE DOWNbHAND-HINGE MIDDLEbHAND-FIST MIDDLE UPbHAND-CIRCLEo"),
  (0x1D8C8, "bHAND-FIST MIDDLE RAISED KNUCKLEdUP THUMB SIDEbHAND-HOOK MIDDLE THUMB"),
  (0x1D8CB, "bHAND-FIST MIDDLE THUMB LITTLEdndRINGnbHAND-CIRCLEp"),
  (0x1D8CF, "bHAND-CURLICUE MIDDLE RING LITTLE ONbHAND-CUP MIDDLE RING LITTLEbHAND-HINGEp"),
  (0x1D8D2, "bHAND-ANGLE MIDDLE RING LITTLE OUTfINfbHAND-CIRCLE MIDDLE RING LITTLE BENT"),
  (0x1D8D6, "bHAND-CLAW MIDDLE RING LITTLE CONJOINEDgSIDE"),
  (0x1D8D8, "bHAND-HOOK MIDDLE RING LITTLE CONJOINED OUTgINgbHAND-HINGE INDEX HINGED"),
  (0x1D8DC, "bHAND-FIST INDEX THUMB SIDEbHAND-HINGEpbHAND-FIST INDEX THUMB SIDE THUMB DIAGONAL"),
  (0x1D8DF, "gCONJOINEDgBENTfINDEXnfBOTHnfINDEX HINGEeFORWARD INDEX STRAIGHTgBENTeHOOKeCURLICUE"),
  (0x1D8E8, "eCURVE THUMB INSIDEbHAND-CLAWrbHAND-FIST INDEX THUMB CURVE THUMB UNDEReCIRCLE"),
  (0x1D8EC, "bHAND-CUP INDEX THUMBeOPENbHAND-HINGEpeLARGEeeSMALLbHAND-ANGLE INDEX THUMB OUTeINe"),
  (0x1D8F5, "bHAND-FISTndHEELdSIDE DIAGONALeCONJOINEDeBENTdFORWARDdBETWEEN INDEX MIDDLE"),
  (0x1D8FC, "eMIDDLE RINGeRING LITTLEdUNDER TWO FINGERSdOVERodUNDER THREEneFOURn"),
  (0x1D902, "dOVER FOUR RAISED KNUCKLESccHEELbTOUCH SINGLEcMULTIPLEcBETWEENbGRASP SINGLEcMULTIPLE"),
  (0x1D90A, "cBETWEENbSTRIKE SINGLEcMULTIPLEcBETWEENbBRUSH SINGLEcMULTIPLEcBETWEENbRUB SINGLE"),
  (0x1D912, "cMULTIPLEcBETWEENbSURFACE SYMBOLScBETWEENbSQUEEZE LARGE SINGLEcSMALLncLARGE MULTIPLE"),
  (0x1D919, "cSMALLncSEQUENTIALbFLICK LARGE SINGLEcSMALLncLARGE MULTIPLEcSMALLncSEQUENTIAL"),
  (0x1D920, "bSQUEEZE FLICK ALTERNATINGbMOVEMENT-HINGE UP DOWN LARGEeSMALLdSEQUENTIALcDOWNn"),
  (0x1D925, "cUP DOWN ALTERNATING LARGEfSMALLcSIDE TO SIDE SCISSORS"),
  (0x1D928, "bMOVEMENT-WALLPLANE FINGER CONTACTbMOVEMENT-FLOORPLANEo"),
  (0x1D92A, "bMOVEMENT-WALLPLANE SINGLE STRAIGHT SMALLeMEDIUMeLARGEeLARGESTdWRIST FLEX"),
  (0x1D92F, "cDOUBLE STRAIGHTdWRIST FLEXdALTERNATINGeWRIST FLEXcCROSScTRIPLE STRAIGHT MOVEMENT"),
  (0x1D935, "dWRIST FLEXdALTERNATINGeWRIST FLEXcBEND SMALLdMEDIUMdLARGEcCORNER SMALLdMEDIUMdLARGE"),
  (0x1D93E, "dROTATIONcCHECK SMALLdMEDIUMdLARGEcBOX SMALLdMEDIUMdLARGEcZIGZAG SMALLdMEDIUMdLARGE"),
  (0x1D948, "cPEAKS SMALLdMEDIUMdLARGEbTRAVEL-WALLPLANE ROTATION-WALLPLANE SINGLEdDOUBLE"),
  (0x1D94D, "dALTERNATINGcROTATION-FLOORPLANE SINGLEdDOUBLEdALTERNATINGcSHAKINGcARM SPIRAL SINGLE"),
  (0x1D953, "eDOUBLEeTRIPLEbMOVEMENT-DIAGONAL AWAY SMALLdMEDIUMdLARGEdLARGESTcTOWARDS SMALL"),
  (0x1D95A, "dMEDIUMdLARGEdLARGESTcBETWEEN AWAY SMALLeMEDIUMeLARGEeLARGESTdTOWARDS SMALLeMEDIUM"),
  (0x1D963, "eLARGEeLARGESTbMOVEMENT-FLOORPLANE SINGLE STRAIGHT SMALLeMEDIUMeLARGEeLARGEST"),
  (0x1D969, "dWRIST FLEXcDOUBLE STRAIGHTdWRIST FLEXdALTERNATINGeWRIST FLEXcCROSS"),
  (0x1D96F, "cTRIPLE STRAIGHT MOVEMENTdWRIST FLEXdALTERNATING MOVEMENTeWRIST FLEXcBEND"),
  (0x1D974, "cCORNER SMALLdMEDIUMdLARGEcCHECKcBOX SMALLdMEDIUMdLARGEcZIGZAG SMALLdMEDIUMdLARGE"),
  (0x1D97E, "cPEAKS SMALLdMEDIUMdLARGEbTRAVEL-FLOORPLANE ROTATION-FLOORPLANE SINGLEdDOUBLE"),
  (0x1D983, "dALTERNATINGcROTATION-WALLPLANE SINGLEdDOUBLEdALTERNATINGcSHAKING"),
  (0x1D988, "bMOVEMENT-WALLPLANE CURVE QUARTER SMALLeMEDIUMeLARGEeLARGESTdHALF-CIRCLE SMALL"),
  (0x1D98D, "eMEDIUMeLARGEeLARGESTdTHREE-QUARTER CIRCLE SMALLfMEDIUMcHUMP SMALLdMEDIUMdLARGE"),
  (0x1D995, "cLOOP SMALLdMEDIUMdLARGEdSMALL DOUBLEcWAVE CURVE DOUBLE SMALLfMEDIUMfLARGE"),
  (0x1D99C, "eTRIPLE SMALLfMEDIUMfLARGEcCURVE THEN STRAIGHTcCURVED CROSS SMALLeMEDIUM"),
  (0x1D9A2, "bROTATION-WALLPLANE SINGLEcDOUBLEcALTERNATEbMOVEMENT-WALLPLANE SHAKING"),
  (0x1D9A6, "cCURVE HITTING FRONT WALLcHUMPpcLOOPpcWAVEpbROTATION-WALLPLANE SINGLEpcDOUBLEp"),
  (0x1D9AC, "cALTERNATINGpbMOVEMENT-WALLPLANE CURVE HITTING CHESTcHUMPocLOOPocWAVEo"),
  (0x1D9B1, "bROTATION-WALLPLANE SINGLEocDOUBLEocALTERNATINGo"),
  (0x1D9B4, "bMOVEMENT-WALLPLANE WAVE DIAGONAL PATH SMALLfMEDIUMfLARGE"),
  (0x1D9B7, "bMOVEMENT-FLOORPLANE CURVE HITTING CEILING SMALLfLARGE"),
  (0x1D9B9, "cHUMP HITTING CEILING SMALL DOUBLEfLARGEnfSMALL TRIPLEfLARGEn"),
  (0x1D9BD, "cLOOP HITTING CEILING SMALL SINGLEfLARGEnfSMALL DOUBLEfLARGEn"),
  (0x1D9C1, "cWAVE HITTING CEILING SMALLfLARGEbROTATION-FLOORPLANE SINGLE HITTING CEILINGcDOUBLEo"),
  (0x1D9C5, "cALTERNATINGobMOVEMENT-FLOORPLANE CURVE HITTING FLOOR SMALLfLARGE"),
  (0x1D9C8, "cHUMP HITTING FLOOR SMALL DOUBLEfLARGEnfTRIPLE SMALL TRIPLEgLARGEn"),
  (0x1D9CC, "cLOOP HITTING FLOOR SMALL SINGLEfLARGEnfSMALL DOUBLEfLARGEncWAVE HITTING FLOOR SMALL"),
  (0x1D9D1, "fLARGEbROTATION-FLOORPLANE SINGLE HITTING FLOORcDOUBLEocALTERNATINGo"),
  (0x1D9D5, "bMOVEMENT-FLOORPLANE CURVE SMALLdMEDIUMdLARGEdLARGESTdCOMBINEDcHUMP SMALLcLOOPn"),
  (0x1D9DC, "cWAVE SNAKEdSMALLdLARGEbROTATION-FLOORPLANE SINGLEcDOUBLEcALTERNATING"),
  (0x1D9E2, "bMOVEMENT-FLOORPLANE SHAKING PARALLELbMOVEMENT-WALLPLANE ARM CIRCLE SMALL SINGLE"),
  (0x1D9E4, "eMEDIUMneSMALL DOUBLEeMEDIUMn"),
  (0x1D9E7, "bMOVEMENT-FLOORPLANE ARM CIRCLE HITTING WALL SMALL SINGLEgMEDIUMngLARGEn"),
  (0x1D9EA, "gSMALL DOUBLEgMEDIUMngLARGEnbMOVEMENT-WALLPLANE WRIST CIRCLE FRONT SINGLEfDOUBLE"),
  (0x1D9EF, "bMOVEMENT-FLOORPLANE WRIST CIRCLE HITTING WALL SINGLEgDOUBLE"),
  (0x1D9F1, "bMOVEMENT-WALLPLANE FINGER CIRCLES SINGLEeDOUBLE"),
  (0x1D9F3, "bMOVEMENT-FLOORPLANE FINGER CIRCLES HITTING WALL SINGLEgDOUBLE"),
  (0x1D9F5, "bDYNAMIC ARROWHEAD SMALLdLARGEcFASTcSLOWcTENSEcRELAXEDcSIMULTANEOUSdALTERNATING"),
  (0x1D9FD, "cEVERY OTHER TIMEcGRADUALbHEADcRIMcMOVEMENT-WALLPLANE STRAIGHTdTILT"),
  (0x1DA03, "cMOVEMENT-FLOORPLANE STRAIGHTcMOVEMENT-WALLPLANE CURVEcMOVEMENT-FLOORPLANEn"),
  (0x1DA06, "cMOVEMENT CIRCLEbFACE DIRECTION POSITION NOSE FORWARD TILTINGfUP OR DOWNiTILTING"),
  (0x1DA0A, "bEYEBROWS STRAIGHT UPdNEUTRALdDOWNbDREAMY EYEBROWS NEUTRALndDOWN NEUTRALdUPn"),
  (0x1DA10, "dNEUTRAL UPbFOREHEAD NEUTRALcCONTACTcWRINKLEDbEYES OPENcSQUEEZEDcCLOSED"),
  (0x1DA17, "bEYE BLINK SINGLEdMULTIPLEbEYES HALF OPENcWIDEncHALF CLOSEDcWIDENING MOVEMENT"),
  (0x1DA1D, "bEYE WINKbEYELASHES UPcDOWNcFLUTTERINGbEYEGAZE-WALLPLANE STRAIGHTdDOUBLEdALTERNATING"),
  (0x1DA24, "bEYEGAZE-FLOORPLANE STRAIGHTdDOUBLEdALTERNATINGbEYEGAZE-WALLPLANE CURVED"),
  (0x1DA28, "bEYEGAZE-FLOORPLANEnbEYEGAZE-WALLPLANE CIRCLINGbCHEEKS PUFFEDcNEUTRALcSUCKED"),
  (0x1DA2D, "bTENSE CHEEKS HIGHdMIDDLEdLOWbEARSbNOSE NEUTRALcCONTACTcWRINKLEScWIGGLES"),
  (0x1DA35, "bAIR BLOWING OUTcSUCKING INcBLOW SMALL ROTATIONScSUCKobBREATH INHALEcEXHALE"),
  (0x1DA3B, "bMOUTH CLOSED NEUTRALdFORWARDdCONTACTcSMILEdWRINKLEDdOPENcFROWNdWRINKLEDdOPEN"),
  (0x1DA44, "cOPEN CIRCLEdFORWARDdWRINKLEDdOVALeWRINKLEDeYAWNdRECTANGLEeWRINKLEDeYAWNcKISS"),
  (0x1DA4E, "dFORWARDdWRINKLEDcTENSEdFORWARDdSUCKEDbLIPS PRESSED TOGETHERbLIP LOWER OVER UPPER"),
  (0x1DA55, "cUPPER OVER LOWERbMOUTH CORNERScWRINKLES SINGLEdDOUBLEbTONGUE STICKING OUT FAR"),
  (0x1DA5A, "cLICKING LIPScTIP BETWEENndTOUCHING INSIDE MOUTHcINSIDE MOUTH RELAXED"),
  (0x1DA5E, "cMOVES AGAINST CHEEKcCENTRE STICKING OUTdINSIDE MOUTHbTEETHcMOVEMENTcON TONGUE"),
  (0x1DA64, "eMOVEMENTdLIPSeMOVEMENTcBITE LIPSbMOVEMENT-WALLPLANE JAWbMOVEMENT-FLOORPLANEnbNECK"),
  (0x1DA6B, "bHAIRbEXCITEMENTbSHOULDER HIP SPINEdPOSITIONSbWALLPLANE SHOULDER HIP MOVE"),
  (0x1DA70, "bFLOORPLANEpbSHOULDER TILTING FROM WAISTbTORSO-WALLPLANE STRAIGHT STRETCH"),
  (0x1DA73, "cCURVED BENDbTORSO-FLOORPLANE TWISTINGbUPPER BODY TILTING FROM HIP JOINTS"),
  (0x1DA76, "bLIMB COMBINATIONcLENGTH-1cLENGTH-2cLENGTH-3cLENGTH-4cLENGTH-5cLENGTH-6cLENGTH-7"),
  (0x1DA7E, "bFINGERbLOCATION-WALLPLANE SPACEbLOCATION-FLOORPLANEnbLOCATION HEIGHTcWIDTHcDEPTH"),
  (0x1DA84, "cHEAD NECKcTORSOcLIMBS DIGITSbCOMMAbFULL STOPbSEMICOLONbCOLONbPARENTHESIS"),
  (0x1DA9B, "bFILL MODIFIER-2cMODIFIER-3cMODIFIER-4cMODIFIER-5cMODIFIER-6"),
  (0x1DAA1, "bROTATION MODIFIER-2cMODIFIER-3cMODIFIER-4cMODIFIER-5cMODIFIER-6cMODIFIER-7"),
  (0x1DAA7, "cMODIFIER-8cMODIFIER-9cMODIFIER-10cMODIFIER-11cMODIFIER-12cMODIFIER-13cMODIFIER-14"),
  (0x1DAAE, "cMODIFIER-15cMODIFIER-16"),
  (0x1DF00, "aLATIN SMALL LETTER FENG DIGRAPH WITH TRILLdREVERSED SCRIPT G"),
  (0x1DF02, "bLETTER SMALL CAPITAL TURNEDnbSMALL LETTER REVERSED K"),
  (0x1DF04, "bLETTER SMALL CAPITAL L WITH BELTbSMALL LETTER LEZH WITH RETROFLEX HOOK"),
  (0x1DF06, "dTURNED Y WITH BELTdREVERSED ENGdTURNED R WITH LONG LEG AND RETROFLEX HOOK"),
  (0x1DF09, "dT WITH HOOKpbLETTER RETROFLEX CLICK WITHobSMALL LETTER ESH WITH DOUBLE BARhAND CURL"),
  (0x1DF0D, "dTURNED T WITHnbLETTER INVERTED GLOTTAL STOPocSTRETCHED CocSMALL CAPITAL TURNED K"),
  (0x1DF11, "bSMALL LETTER L WITH FISHHOOKdDEZH DIGRAPH WITH PALATAL HOOKdL WITH BELT ANDo"),
  (0x1DF14, "dENG WITHodTURNED RpdR WITH FISHHOOK ANDodTESH DIGRAPH WITHodEZHp"),
  (0x1DF19, "dDEZH DIGRAPH WITH RETROFLEXndI WITH STROKE ANDodO WITHodTESH DIGRAPHpdCp"),
  (0x1DF1E, "dS WITH CURL"),
  (0x1E000, "aCOMBINING GLAGOLITIC LETTER AZUdBUKYdVEDEdGLAGOLIdDOBROdYESTUdZHIVETE"),
  (0x1E008, "dZEMLJAdIZHEdINITIALndIdDJERVIdKAKOdLJUDIJEdMYSLITEdNASHIdONUdPOKOJIdRITSIdSLOVO"),
  (0x1E015, "dTVRIDOdUKUdFRITUdHERU"),
  (0x1E01B, "dSHTAdTSIdCHRIVIdSHAdYERUdYERIdYATI"),
  (0x1E023, "dYUdSMALL YUS"),
  (0x1E026, "dYOdIOTATED SMALL YUSdBIGndIOTATEDodFITA"),
  (0x1E100, "aNYIAKENG PUACHUE HMONG LETTER MAeTSAeNTAeTAeHAeNAeXAeNKAeCAeLAeSAeZAeNCAeNTSAeKAeDA"),
  (0x1E110, "eNYAeNRAeVAeNTXAeTXAeFAeRAeQAeYAeNQAePAeXYAeNPAeDLAeNPLAeHAHeMLAePLAeGAeRRAeAeAAeIeU"),
  (0x1E128, "eOeOOeEeEEeW"),
  (0x1E130, "dTONE-BdTONE-MdTONE-JdTONE-VdTONE-SdTONE-GdTONE-DdSIGN FOR PERSONfTHINGfLOCATION"),
  (0x1E13A, "fANIMALfINVERTEBRATEeXW XWdSYLLABLE LENGTHENER"),
  (0x1E140, "dDIGIT ZEROeONEeTWOeTHREEeFOUReFIVEeSIXeSEVENeEIGHTeNINE"),
  (0x1E14E, "dLOGOGRAM NYAJdCIRCLED CA"),
  (0x1E290, "aTOTO LETTER PAcBAcTAcDAcKAcGAcMAcNAcNGAcSAcCHAcYAcWAcJAcHAcRAcLAcIcBREATHYncIU"),
  (0x1E2A4, "cBREATHYncUcEcBREATHYncEOcBREATHYncOcAEcBREATHYncAbSIGN RISING TONE"),
  (0x1E2C0, "aWANCHO LETTER AAcAcBAcCAcDAcGAcYAcPHAcLAcNAcPAcTAcTHAcFAcSAcSHAcJAcZAcWAcVAcKAcOcAU"),
  (0x1E2D7, "cRAcMAcKHAcHAcEcIcNGAcUcLLHAcTSAcTRAcONGcAANGcANGcINGcONcENcAANcNYAcUENcYIHbTONE TUP"),
  (0x1E2ED, "cTUPNIcKOIcKOINIbDIGIT ZEROcONEcTWOcTHREEcFOURcFIVEcSIXcSEVENcEIGHTcNINE"),
  (0x1E2FF, "bNGUN SIGN"),
  (0x1E7E0, "aETHIOPIC SYLLABLE HHYAcHHYUcHHYIcHHYAAcHHYEEcHHYEcHHYO"),
  (0x1E7E8, "cGURAGE HHWAcHHWIcHHWEEcHHWE"),
  (0x1E7ED, "cGURAGE MWIdMWEE"),
  (0x1E7F0, "dQWIdQWEEdQWEdBWIdBWEEdKWIdKWEEdKWEdGWIdGWEEdGWEdFWIdFWEEdPWIdPWEE"),
  (0x1E800, "aMENDE KIKAKUI SYLLABLE M001 KIdM002 KAdM003 KUdM065 KEEdM095 KEdM076 KOOdM048 KO"),
  (0x1E807, "dM179 KUAdM004 WIdM005 WAdM006 WUdM126 WEEdM118 WEdM114 WOOdM045 WOdM194 WUI"),
  (0x1E810, "dM143 WEIdM061 WVIdM049 WVAdM139 WVEdM007 MINdM008 MANdM009 MUNdM059 MENdM094 MON"),
  (0x1E819, "dM154 MUANdM189 MUENdM010 BIdM011 BAdM012 BUdM150 BEEdM097 BEdM103 BOOdM138 BO"),
  (0x1E822, "dM013 IdM014 AdM015 UdM163 EEdM100 EdM165 OOdM147 OdM137 EIdM131 INdM135ndM195 AN"),
  (0x1E82D, "dM178 ENdM019 SIdM020 SAdM021 SUdM162 SEEdM116 SEdM136 SOOdM079 SOdM196 SIAdM025 LI"),
  (0x1E837, "dM026 LAdM027 LUdM084 LEEdM073 LEdM054 LOOdM153 LOdM110 LONG LEdM016 DIdM017 DA"),
  (0x1E840, "dM018 DUdM089 DEEdM180 DOOdM181 DOdM022 TIdM023 TAdM024 TUdM091 TEEdM055 TEdM104 TOO"),
  (0x1E84A, "dM069 TOdM028 JIdM029 JAdM030 JUdM157 JEEdM113 JEdM160 JOOdM063 JOdM175 LONGn"),
  (0x1E853, "dM031 YIdM032 YAdM033 YUdM109 YEEdM080 YEdM141 YOOdM121 YOdM034 FIdM035 FAdM036 FU"),
  (0x1E85D, "dM078 FEEdM075 FEdM133 FOOdM088 FOdM197 FUAdM101 FANdM037 NINdM038 NANdM039 NUN"),
  (0x1E866, "dM117 NENdM169 NONdM176 HIdM041 HAdM186 HUdM040 HEEdM096 HEdM042 HOOdM140 HO"),
  (0x1E86F, "dM083 HEEIdM128 HOOUdM053 HINdM130 HANdM087 HUNdM052 HENdM193 HONdM046 HUAN"),
  (0x1E877, "dM090 NGGIdM043 NGGAdM082 NGGUdM115 NGGEEdM146 NGGEdM156 NGGOOdM120 NGGOdM159 NGGAA"),
  (0x1E87F, "dM127 NGGUAdM086 LONG NGGEdM106 LONG NGGOOdM183 LONG NGGOdM155 GIdM111 GAdM168 GU"),
  (0x1E886, "dM190 GEEdM166 GUEIdM167 GUANdM184 NGENdM057 NGONdM177 NGUANdM068 PIdM099 PAdM050 PU"),
  (0x1E88F, "dM081 PEEdM051 PEdM102 POOdM066 POdM145 MBIdM062 MBAdM122 MBUdM047 MBEEdM188n"),
  (0x1E898, "dM072 MBEdM172 MBOOdM174 MBOdM187 MBUUdM161 LONG MBEdM105 LONG MBOOdM142 LONG MBO"),
  (0x1E89F, "dM132 KPIdM092 KPAdM074 KPUdM044 KPEEdM108 KPEdM112 KPOOdM158 KPOdM124 GBIdM056 GBA"),
  (0x1E8A8, "dM148 GBUdM093 GBEEdM107 GBEdM071 GBOOdM070 GBOdM171 RAdM123 NDIdM129 NDAdM125 NDU"),
  (0x1E8B1, "dM191 NDEEdM119 NDEdM067 NDOOdM064 NDOdM152 NJAdM192 NJUdM149 NJEEdM134 NJOOdM182 VI"),
  (0x1E8BA, "dM185 VAdM151 VUdM173 VEEdM085 VEdM144 VOOdM077 VOdM164 NYINdM058 NYANdM170 NYUN"),
  (0x1E8C3, "dM098 NYENdM060 NYON"),
  (0x1E8C7, "cDIGIT ONEdTWOdTHREEdFOURdFIVEdSIXdSEVENdEIGHTdNINEcCOMBINING NUMBER TEENSeTENS"),
  (0x1E8D2, "eHUNDREDSeTHOUSANDSeTENneHUNDREDneMILLIONS"),
  (0x1E900, "aADLAM CAPITAL LETTER ALIFdDAALIdLAAMdMIIMdBAdSINNYIIYHEdPEdBHEdRAdEdFAdIdOdDHAdYHE"),
  (0x1E90F, "dWAWdNUNdKAFdYAdUdJIIMdCHIdHAdQAAFdGAdNYAdTUdNHAdVAdKHAdGBEdZALdKPOdSHA"),
  (0x1E922, "bSMALL LETTER ALIFdDAALIdLAAMdMIIMdBAdSINNYIIYHEdPEdBHEdRAdEdFAdIdOdDHAdYHEdWAWdNUN"),
  (0x1E933, "dKAFdYAdUdJIIMdCHIdHAdQAAFdGAdNYAdTUdNHAdVAdKHAdGBEdZALdKPOdSHAbALIF LENGTHENER"),
  (0x1E945, "bVOWELnbGEMINATION MARKbHAMZAbCONSONANT MODIFIERbGEMINATEobNUKTAbNASALIZATION MARK"),
  (0x1E950, "bDIGIT ZEROcONEcTWOcTHREEcFOURcFIVEcSIXcSEVENcEIGHTcNINE"),
  (0x1E95E, "bINITIAL EXCLAMATION MARKcQUESTIONn"),
  (0x1EC71, "aINDIC SIYAQ NUMBER ONEdTWOdTHREEdFOURdFIVEdSIXdSEVENdEIGHTdNINEdTENdTWENTYdTHIRTY"),
  (0x1EC7D, "dFORTYdFIFTYdSIXTYdSEVENTYdEIGHTYdNINETYdONE HUNDREDdTWOndTHREEndFOURndFIVEndSIXn"),
  (0x1EC89, "dSEVENndEIGHTndNINEndONE THOUSANDdTWOndTHREEndFOURndFIVEndSIXndSEVENndEIGHTndNINEn"),
  (0x1EC95, "dTENndTWENTYndTHIRTYndFORTYndFIFTYndSIXTYndSEVENTYndEIGHTYndNINETYndLAKHdLAKHAN"),
  (0x1ECA0, "cLAKH MARKcNUMBER KARORdKARORANdPREFIXED ONEeTWOeTHREEeFOUReFIVEeSIXeSEVENeEIGHT"),
  (0x1ECAB, "eNINEcPLACEHOLDERcFRACTION ONE QUARTEReHALFdTHREE QUARTERScRUPEE MARK"),
  (0x1ECB1, "cNUMBER ALTERNATE ONEeTWOeTEN THOUSANDcALTERNATE LAKH MARK"),
  (0x1ED01, "aOTTOMAN SIYAQ NUMBER ONEdTWOdTHREEdFOURdFIVEdSIXdSEVENdEIGHTdNINEdTENdTWENTYdTHIRTY"),
  (0x1ED0D, "dFORTYdFIFTYdSIXTYdSEVENTYdEIGHTYdNINETYdONE HUNDREDdTWOndTHREEndFOURndFIVEndSIXn"),
  (0x1ED19, "dSEVENndEIGHTndNINEndONE THOUSANDdTWOndTHREEndFOURndFIVEndSIXndSEVENndEIGHTndNINEn"),
  (0x1ED25, "dTENndTWENTYndTHIRTYndFORTYndFIFTYndSIXTYndSEVENTYndEIGHTYndNINETYncMARRATAN"),
  (0x1ED2F, "cALTERNATE NUMBER TWOeTHREEeFOUReFIVEeSIXeSEVENeEIGHTeNINEeTENeFOUR HUNDREDeSIXn"),
  (0x1ED3A, "eTWO THOUSANDeTENncFRACTION ONE HALFeSIXTH"),
  (0x1EE00, "aARABIC MATHEMATICAL ALEFcBEHcJEEMcDAL"),
  (0x1EE05, "cWAWcZAINcHAHcTAHcYEHcKAFcLAMcMEEMcNOONcSEENcAINcFEHcSADcQAFcREHcSHEENcTEHcTHEHcKHAH"),
  (0x1EE18, "cTHALcDADcZAHcGHAINcDOTLESS BEHdNOONdFEHdQAF"),
  (0x1EE21, "cINITIAL BEHdJEEM"),
  (0x1EE24, "dHEH"),
  (0x1EE27, "dHAH"),
  (0x1EE29, "dYEHdKAFdLAMdMEEMdNOONdSEENdAINdFEHdSADdQAF"),
  (0x1EE34, "dSHEENdTEHdTHEHdKHAH"),
  (0x1EE39, "dDAD"),
  (0x1EE3B, "dGHAIN"),
  (0x1EE42, "cTAILED JEEM"),
  (0x1EE47, "dHAH"),
  (0x1EE49, "dYEH"),
  (0x1EE4B, "dLAM"),
  (0x1EE4D, "dNOONdSEENdAIN"),
  (0x1EE51, "dSADdQAF"),
  (0x1EE54, "dSHEEN"),
  (0x1EE57, "dKHAH"),
  (0x1EE59, "dDAD"),
  (0x1EE5B, "dGHAIN"),
  (0x1EE5D, "dDOTLESS NOON"),
  (0x1EE5F, "eQAF"),
  (0x1EE61, "cSTRETCHED BEHdJEEM"),
  (0x1EE64, "dHEH"),
  (0x1EE67, "dHAHdTAHdYEHdKAF"),
  (0x1EE6C, "dMEEMdNOONdSEENdAINdFEHdSADdQAF"),
  (0x1EE74, "dSHEENdTEHdTHEHdKHAH"),
  (0x1EE79, "dDADdZAHdGHAINdDOTLESS BEH"),
  (0x1EE7E, "eFEH"),
  (0x1EE80, "cLOOPED ALEFdBEHdJEEMdDALdHEHdWAWdZAINdHAHdTAHdYEH"),
  (0x1EE8B, "dLAMdMEEMdNOONdSEENdAINdFEHdSADdQAFdREHdSHEENdTEHdTHEHdKHAHdTHALdDADdZAHdGHAIN"),
  (0x1EEA1, "cDOUBLE-STRUCK BEHdJEEMdDAL"),
  (0x1EEA5, "dWAWdZAINdHAHdTAHdYEH"),
  (0x1EEAB, "dLAMdMEEMdNOONdSEENdAINdFEHdSADdQAFdREHdSHEENdTEHdTHEHdKHAHdTHALdDADdZAHdGHAIN"),
  (0x1EEF0, "cOPERATOR MEEM WITH HAH WITH TATWEELdHAH WITH DAL")]

end BooksGateway.Text.CharName
